import HeaderLint.Error
import HeaderLint.Rule.Builtin

set_option autoImplicit false

namespace HeaderLint

structure Registry where
  rules : List (String × Rule)
  ascending : (rules.map Prod.fst).Pairwise (· < ·)

namespace Registry

def place (name : String) (rule : Rule) : List (String × Rule) → List (String × Rule)
  | [] => [(name, rule)]
  | (key, old) :: rest =>
      if name < key then (name, rule) :: (key, old) :: rest
      else if name = key then (name, rule) :: rest
      else (key, old) :: place name rule rest

@[simp] theorem mem_keys_place {name : String} {rule : Rule} {rules : List (String × Rule)}
    {key : String} :
    key ∈ (place name rule rules).map Prod.fst ↔ key = name ∨ key ∈ rules.map Prod.fst := by
  induction rules with
  | nil => simp [place]
  | cons head rest ih =>
    by_cases before : name < head.1
    next => simp [place, before]
    next =>
      by_cases same : name = head.1
      next => simp [place, same]
      next => simp only [place, before, same, if_false, List.map_cons, List.mem_cons, ih]; grind

theorem ascending_place {name : String} {rule : Rule} {rules : List (String × Rule)}
    (ascending : (rules.map Prod.fst).Pairwise (· < ·)) :
    ((place name rule rules).map Prod.fst).Pairwise (· < ·) := by
  induction rules with
  | nil => simp [place]
  | cons head rest ih =>
    simp only [List.map_cons, List.pairwise_cons] at ascending
    by_cases before : name < head.1
    next =>
      simp only [place, before, if_true, List.map_cons, List.pairwise_cons, List.mem_cons]
      refine ⟨fun key mem => ?_, ascending⟩
      rcases mem with same | mem
      next => exact same ▸ before
      next => exact String.lt_trans before (ascending.1 key mem)
    next =>
      by_cases same : name = head.1
      next => simpa [place, same] using ascending
      next =>
        simp only [place, before, same, if_false, List.map_cons, List.pairwise_cons,
          mem_keys_place]
        refine ⟨fun key mem => ?_, ih ascending.2⟩
        rcases mem with isName | mem
        next =>
          have atMost := String.not_lt.mp before
          subst isName
          exact Classical.byContradiction fun past =>
            same (String.le_antisymm (String.not_lt.mp past) atMost)
        next => exact ascending.1 key mem

def displaced? (name : String) : List (String × Rule) → Option Rule
  | [] => none
  | (key, old) :: rest =>
      if name < key then none
      else if name = key then some old
      else displaced? name rest

def empty : Registry :=
  { rules := [], ascending := .nil }

def register (registry : Registry) (name : String) (rule : Rule) : Registry :=
  { rules := place name rule registry.rules
    ascending := ascending_place registry.ascending }

def enroll (name : String) (rule : Rule) : StateM Registry (Option Rule) := do
  let registry ← get
  set (registry.register name rule)
  return displaced? name registry.rules

def find? (registry : Registry) (name : String) : Option Rule :=
  registry.rules.lookup name

def contains (registry : Registry) (name : String) : Bool :=
  (registry.find? name).isSome

def resolve (registry : Registry) (name : String) : Except ConfigError Rule :=
  match registry.find? name with
  | some rule => .ok rule
  | none => .error (.unknownRule name)

def names (registry : Registry) : List String :=
  registry.rules.map Prod.fst

def size (registry : Registry) : Nat :=
  registry.rules.length

def isEmpty (registry : Registry) : Bool :=
  registry.rules.isEmpty

def registerAll (registry : Registry) (rules : List (String × Rule)) : Registry :=
  rules.foldl (fun registry (name, rule) => registry.register name rule) registry

def builtinRules : List (String × Rule) :=
  [ ("type-enum", .membership .type),
    ("scope-enum", .membership .scope),
    ("type-empty", .emptiness .type),
    ("scope-empty", .emptiness .scope),
    ("subject-empty", .emptiness .subject),
    ("type-case", .casing .type),
    ("scope-case", .casing .scope),
    ("subject-case", .casing .subject),
    ("subject-full-stop", .fullStop),
    ("subject-exclamation-mark", .exclamationMark),
    ("header-max-length", .headerLength .max),
    ("header-min-length", .headerLength .min),
    ("header-trim", .headerTrim) ]

def builtin : Registry :=
  empty.registerAll builtinRules

end Registry

end HeaderLint
