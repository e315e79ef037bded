import HeaderLint.Text.Utf8

set_option autoImplicit false

namespace HeaderLint

open Text

-- The first seven bytes of a commit's name; there is no such text if they end inside a character.
def shortName? (name : String) : Option String :=
  (Utf8.decode? ((Utf8.encode name.toList).take 7)).map String.ofList

structure CommitId where
  name : String
  short : (shortName? name).isSome
  deriving Repr, DecidableEq

def CommitId.ofName? (name : String) : Option CommitId :=
  if short : (shortName? name).isSome then some { name, short } else none

def CommitId.shortName (id : CommitId) : String :=
  (shortName? id.name).get id.short

structure Commit where
  id : CommitId
  time : Int
  parents : List CommitId
  stored : List UInt8
  deriving Repr, DecidableEq

namespace Commit

-- What is stored counts up to its first zero byte, without the line feeds that open it.
def message (commit : Commit) : List UInt8 :=
  (commit.stored.takeWhile (· != 0)).dropWhile (· == 0x0A)

def text (commit : Commit) : String :=
  .ofList (Utf8.decodeLossy commit.message)

end Commit

end HeaderLint
