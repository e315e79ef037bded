import HeaderLint.Config.Entry
import HeaderLint.Error

set_option autoImplicit false

namespace HeaderLint

/-- Entries under their rules' names, in the order the names first came. No name comes twice and no
entry holds an empty list, which no message could satisfy. -/
structure RuleSet where
  entries : List (String × Entry)
  nodup : (entries.map Prod.fst).Nodup
  filled : ∀ entry ∈ entries, entry.2.hasEmptyList = false
  deriving DecidableEq

namespace RuleSet

def empty : RuleSet :=
  { entries := [], nodup := .nil, filled := by simp }

instance : Inhabited RuleSet := ⟨empty⟩

def put (name : String) (entry : Entry) : List (String × Entry) → List (String × Entry)
  | [] => [(name, entry)]
  | (key, old) :: rest =>
      if key = name then (key, entry) :: rest else (key, old) :: put name entry rest

theorem mem_keys_put {name : String} {entry : Entry} {entries : List (String × Entry)}
    {key : String} :
    key ∈ (put name entry entries).map Prod.fst ↔ key = name ∨ key ∈ entries.map Prod.fst := by
  induction entries with
  | nil => simp [put]
  | cons head rest ih =>
    by_cases same : head.1 = name
    next => simp [put, same]
    next => simp only [put, same, if_false, List.map_cons, List.mem_cons, ih]; grind

theorem nodup_put {name : String} {entry : Entry} {entries : List (String × Entry)}
    (nodup : (entries.map Prod.fst).Nodup) : ((put name entry entries).map Prod.fst).Nodup := by
  induction entries with
  | nil => simp [put]
  | cons head rest ih =>
    simp only [List.map_cons, List.nodup_cons] at nodup
    by_cases same : head.1 = name
    next => simpa [put, same] using nodup
    next =>
      simp only [put, same, if_false, List.map_cons, List.nodup_cons, mem_keys_put]
      exact ⟨by grind, ih nodup.2⟩

theorem mem_put {name : String} {entry : Entry} {entries : List (String × Entry)}
    {item : String × Entry} (mem : item ∈ put name entry entries) :
    item = (name, entry) ∨ item ∈ entries := by
  induction entries with
  | nil => simpa [put] using mem
  | cons head rest ih =>
    by_cases same : head.1 = name
    next => simp [put, same] at mem; grind
    next => simp [put, same] at mem; grind

def insert (rules : RuleSet) (name : String) (entry : Entry) : Except ConfigError RuleSet :=
  if usable : entry.hasEmptyList = true then .error (.emptySet name)
  else .ok
    { entries := put name entry rules.entries
      nodup := nodup_put rules.nodup
      filled := fun item mem => by
        rcases mem_put mem with rfl | old
        next => simpa using usable
        next => exact rules.filled item old }

def insertAll (rules : RuleSet) : List (String × Entry) → Except ConfigError RuleSet
  | [] => .ok rules
  | (name, entry) :: rest => do (← rules.insert name entry).insertAll rest

def find? (rules : RuleSet) (name : String) : Option Entry :=
  rules.entries.lookup name

def names (rules : RuleSet) : List String :=
  rules.entries.map Prod.fst

def size (rules : RuleSet) : Nat :=
  rules.entries.length

def isEmpty (rules : RuleSet) : Bool :=
  rules.entries.isEmpty

end RuleSet

structure Config where
  rules : RuleSet
  strict : Bool
  deriving DecidableEq

end HeaderLint
