import HeaderLint.Files
import HeaderLint.Proofs.Except
import Mathlib.Data.List.Basic

set_option autoImplicit false

namespace HeaderLint.Files

variable {files after : Files} {path : String} {content : List UInt8}

theorem isFolder_iff {place : Place} :
    files.isFolder place = true ↔
      place <+: files.home ∨ ∃ entry ∈ files.entries, place <+: entry.1 ∧ place ≠ entry.1 := by
  have root : place = [] → place <+: files.home := by
    rintro rfl
    exact List.nil_prefix
  simp only [isFolder, Bool.or_eq_true, List.isEmpty_iff, List.isPrefixOf_iff_prefix,
    List.any_eq_true, Bool.and_eq_true, bne_iff_ne]
  constructor
  next =>
    rintro ((top | above) | below)
    next => exact .inl (root top)
    next => exact .inl above
    next => exact .inr below
  next =>
    rintro (above | below)
    next => exact .inl (.inr above)
    next => exact .inr below

theorem isFolder_of_inside {place around : Place} (inside : place <+: around)
    (folder : files.isFolder around = true) : files.isFolder place = true := by
  rw [isFolder_iff] at folder ⊢
  rcases folder with above | ⟨entry, mem, below, apart⟩
  next => exact .inl (inside.trans above)
  next =>
    refine .inr ⟨entry, mem, inside.trans below, ?_⟩
    rintro rfl
    exact apart (below.eq_of_length_le inside.length_le)

theorem lookup_filter_ne {other place : Place} (apart : other ≠ place)
    (entries : List (Place × List UInt8)) :
    (entries.filter (·.1 != place)).lookup other = entries.lookup other := by
  induction entries with
  | nil => rfl
  | cons entry entries ih =>
    obtain ⟨key, old⟩ := entry
    by_cases same : key = place
    next =>
      have passed : (other == key) = false := beq_eq_false_iff_ne.mpr (same ▸ apart)
      rw [List.filter_cons_of_neg (by simp [same]), ih, List.lookup_cons, passed]
    next =>
      rw [List.filter_cons_of_pos (by simp [same]), List.lookup_cons, List.lookup_cons, ih]

@[simp] theorem node?_put_self (files : Files) (place : Place) (content : List UInt8) :
    (files.put place content).node? place = some (.file content) := by
  simp [node?, put]

section Put

variable {around other : Place} {name : String}

theorem isFolder_put (inside : files.isFolder around = true) :
    (files.put (around ++ [name]) content).isFolder other = files.isFolder other := by
  rw [Bool.eq_iff_iff, isFolder_iff, isFolder_iff]
  constructor
  next =>
    rintro (above | ⟨entry, mem, below, apart⟩)
    next => exact .inl above
    next =>
      rcases List.mem_cons.mp mem with rfl | old
      next =>
        -- Around a new file there are only folders that were there before.
        have further : other <+: around := by
          rcases List.prefix_concat_iff.mp below with whole | further
          next => exact absurd whole apart
          next => exact further
        exact isFolder_iff.mp (isFolder_of_inside further inside)
      next => exact .inr ⟨entry, (List.mem_filter.mp old).1, below, apart⟩
  next =>
    rintro (above | ⟨entry, mem, below, apart⟩)
    next => exact .inl above
    next =>
      by_cases same : entry.1 = around ++ [name]
      next => exact .inr ⟨(around ++ [name], content), List.mem_cons_self, same ▸ below, same ▸ apart⟩
      next =>
        have kept : entry ∈ files.entries.filter (·.1 != around ++ [name]) :=
          List.mem_filter.mpr ⟨mem, by simpa using same⟩
        exact .inr ⟨entry, List.mem_cons_of_mem _ kept, below, apart⟩

theorem node?_put_of_ne (inside : files.isFolder around = true) (apart : other ≠ around ++ [name]) :
    (files.put (around ++ [name]) content).node? other = files.node? other := by
  have passed : (other == around ++ [name]) = false := beq_eq_false_iff_ne.mpr apart
  have found : (files.put (around ++ [name]) content).entries.lookup other =
      files.entries.lookup other := by
    rw [put, List.lookup_cons, passed]
    exact lookup_filter_ne apart files.entries
  rw [node?, node?, found, isFolder_put inside]

end Put

theorem node?_eq_folder_iff {place : Place} :
    files.node? place = some .folder ↔
      files.entries.lookup place = none ∧ files.isFolder place = true := by
  rw [node?]
  cases files.entries.lookup place <;> simp

@[simp] theorem enter_eq_ok_iff {place : Place} :
    files.enter place = .ok () ↔ files.node? place = some .folder := by
  rw [enter]
  rcases files.node? place with - | content | - <;> simp

def advance (here : Place) (part : String) : Except FileFault Place :=
  if part.isEmpty || part == "." then .ok here
  else if part == ".." then .ok here.dropLast
  else step here part

@[simp] theorem walk_cons_eq_ok_iff {here there : Place} {part : String} {rest : List String} :
    files.walk here (part :: rest) = .ok there ↔
      files.node? here = some .folder ∧
        ∃ next, advance here part = .ok next ∧ files.walk next rest = .ok there := by
  have led : (if part.isEmpty || part == "." then files.walk here rest
      else if part == ".." then files.walk here.dropLast rest
      else step here part >>= fun next => files.walk next rest) =
        advance here part >>= fun next => files.walk next rest := by
    rw [advance]
    split
    next => rfl
    next => split <;> rfl
  have both : files.walk here (part :: rest) =
      files.enter here >>= fun _ => advance here part >>= fun next => files.walk next rest := by
    rw [walk, ← led]
  simp only [both, bind_eq_ok, ← enter_eq_ok_iff]
  constructor
  next =>
    rintro ⟨_, entered, further⟩
    exact ⟨entered, further⟩
  next =>
    rintro ⟨entered, further⟩
    exact ⟨(), entered, further⟩

theorem walk_mono (kept : ∀ place, files.node? place = some .folder → after.node? place = some .folder)
    {here there : Place} {parts : List String} (walked : files.walk here parts = .ok there) :
    after.walk here parts = .ok there := by
  induction parts generalizing here with
  | nil => exact walked
  | cons part rest ih =>
    obtain ⟨folder, next, led, further⟩ := walk_cons_eq_ok_iff.mp walked
    exact walk_cons_eq_ok_iff.mpr ⟨kept here folder, next, led, ih further⟩

theorem walk_append_eq_ok_iff {here there : Place} {before parts : List String} :
    files.walk here (before ++ parts) = .ok there ↔
      ∃ middle, files.walk here before = .ok middle ∧ files.walk middle parts = .ok there := by
  induction before generalizing here with
  | nil => simp [walk]
  | cons part rest ih =>
    simp only [List.cons_append, walk_cons_eq_ok_iff, ih]
    constructor
    next =>
      rintro ⟨folder, next, led, middle, first, second⟩
      exact ⟨middle, ⟨folder, next, led, first⟩, second⟩
    next =>
      rintro ⟨middle, ⟨folder, next, led, first⟩, second⟩
      exact ⟨folder, next, led, middle, first, second⟩

@[simp] theorem look_eq_ok_iff {node : Node} :
    files.look path = .ok node ↔ accept path = .ok () ∧
      ∃ place, files.walk (files.start path) (parts path) = .ok place ∧
        files.node? place = some node := by
  simp only [look, bind_eq_ok]
  constructor
  next =>
    rintro ⟨_, accepted, place, walked, found⟩
    split at found
    next => cases found
    next there => exact ⟨accepted, place, walked, Except.ok.inj found ▸ there⟩
  next =>
    rintro ⟨accepted, place, walked, there⟩
    exact ⟨(), accepted, place, walked, by rw [there]; rfl⟩

theorem intercalate_concat_nil (first : List Char) (others : List (List Char)) :
    ['/'].intercalate (first :: others ++ [[]]) = ['/'].intercalate (first :: others) ++ ['/'] := by
  induction others generalizing first with
  | nil => simp [List.intercalate_cons_cons]
  | cons second others ih =>
    simp only [List.cons_append, List.intercalate_cons_cons] at ih ⊢
    rw [ih second]
    simp only [List.append_assoc]

-- Only a text that ends with a slash, or is empty, has nothing behind its last slash.
theorem ne_nil_of_splitOn {s name : List Char} {before : List (List Char)} (filled : s ≠ [])
    (last : s.getLast? ≠ some '/') (split : s.splitOn '/' = before ++ [name]) : name ≠ [] := by
  rintro rfl
  have joined : ['/'].intercalate (before ++ [[]]) = s := split ▸ List.intercalate_splitOn '/'
  cases before with
  | nil => exact filled (by simpa using joined.symm)
  | cons first others =>
    rw [intercalate_concat_nil] at joined
    exact last (by rw [← joined, List.getLast?_concat])

structure Destined (files : Files) (path : String) (around : Place) (last : String) : Prop where
  accepted : accept path = .ok ()
  way : ∃ before, parts path = before ++ [last] ∧ files.walk (files.start path) before = .ok around
  folder : files.node? around = some .folder
  led : advance around last = .ok (around ++ [last])
  place : files.node? (around ++ [last]) ≠ some .folder

theorem ne_empty_of_accept (accepted : accept path = .ok ()) : path.toList ≠ [] := by
  intro empty
  obtain rfl := String.toList_eq_nil_iff.mp empty
  simp [accept] at accepted

theorem exists_parts_concat (accepted : accept path = .ok ())
    (last : path.toList.getLast? ≠ some '/') :
    ∃ before name, parts path = before ++ [name] ∧ name.isEmpty = false := by
  have filled : path.toList.splitOn '/' ≠ [] := List.splitOn_ne_nil _ _
  obtain ⟨before, name, split⟩ := (List.eq_nil_or_concat _).resolve_left filled
  rw [List.concat_eq_append] at split
  have named := ne_nil_of_splitOn (ne_empty_of_accept accepted) last split
  refine ⟨before.map .ofList, .ofList name, by simp [parts, split], ?_⟩
  simpa using named

theorem step_eq_ok {here place : Place} {name : String} (stepped : step here name = .ok place) :
    place = here ++ [name] := by
  rw [step] at stepped
  split at stepped
  next => cases stepped
  next => exact (Except.ok.inj stepped).symm

theorem destined_of_destination {place : Place} (found : files.destination path = .ok place) :
    ∃ around last, place = around ++ [last] ∧ Destined files path around last := by
  simp only [destination, bind_eq_ok] at found
  obtain ⟨_, accepted, found⟩ := found
  split at found
  next => cases found
  next last before split =>
    simp only [bind_eq_ok] at found
    obtain ⟨around, walked, _, entered, found⟩ := found
    split at found
    next => cases found
    next plain =>
      obtain ⟨target, stepped, found⟩ := bind_eq_ok.mp found
      split at found
      next => cases found
      next free =>
        obtain rfl := Except.ok.inj found
        simp only [Bool.or_eq_true, beq_iff_eq, not_or] at plain
        obtain ⟨⟨slash, dot⟩, dots⟩ := plain
        obtain ⟨names, name, written, named⟩ := exists_parts_concat accepted slash
        rw [written, List.reverse_concat, List.dropWhile_cons_of_neg (by simp [named])] at split
        obtain ⟨rfl, rfl⟩ := List.cons.inj split
        obtain rfl := step_eq_ok stepped
        refine ⟨around, name, rfl, accepted, ⟨names, written, ?_⟩, enter_eq_ok_iff.mp entered, ?_, ?_⟩
        next => rwa [List.reverse_reverse] at walked
        next => simp [advance, named, dot, dots, stepped]
        next => simpa using free

-- The way that a path goes through folders, whether there is anything at its end or not.
def LeadsTo (files : Files) (path : String) (place : Place) : Prop :=
  files.walk (files.start path) (parts path) = .ok place

def SamePlace (files : Files) (path other : String) : Prop :=
  ∃ place, files.LeadsTo path place ∧ files.LeadsTo other place

theorem not_samePlace {other : String} {here there : Place} (first : files.LeadsTo path here)
    (second : files.LeadsTo other there) (apart : here ≠ there) : ¬ files.SamePlace path other := by
  rintro ⟨place, leads, leadsToo⟩
  have same : here = place := Except.ok.inj (first.symm.trans leads)
  have sameToo : there = place := Except.ok.inj (second.symm.trans leadsToo)
  exact apart (same.trans sameToo.symm)

section Destined

variable {around : Place} {last : String}

theorem Destined.leadsTo (destined : Destined files path around last) :
    files.LeadsTo path (around ++ [last]) := by
  obtain ⟨before, split, walked⟩ := destined.way
  rw [LeadsTo, split, walk_append_eq_ok_iff]
  exact ⟨around, walked, walk_cons_eq_ok_iff.mpr ⟨destined.folder, _, destined.led, rfl⟩⟩

theorem Destined.node?_put_of_ne (destined : Destined files path around last) {other : Place}
    (apart : other ≠ around ++ [last]) :
    (files.put (around ++ [last]) content).node? other = files.node? other :=
  Files.node?_put_of_ne (node?_eq_folder_iff.mp destined.folder).2 apart

theorem Destined.node?_put_eq_folder_iff (destined : Destined files path around last)
    {other : Place} :
    (files.put (around ++ [last]) content).node? other = some .folder ↔
      files.node? other = some .folder := by
  by_cases same : other = around ++ [last]
  next =>
    rw [same, node?_put_self]
    exact iff_of_false nofun destined.place
  next => rw [destined.node?_put_of_ne same]

/-- A file that is put where a path leads closes no way and opens none. -/
theorem Destined.leadsTo_put_iff (destined : Destined files path around last) {other : String}
    {place : Place} :
    (files.put (around ++ [last]) content).LeadsTo other place ↔ files.LeadsTo other place := by
  constructor
  next => exact walk_mono fun _ => destined.node?_put_eq_folder_iff.mp
  next => exact walk_mono fun _ => destined.node?_put_eq_folder_iff.mpr

end Destined

theorem exists_destined (written : files.write path content = .ok after) :
    ∃ around last, Destined files path around last ∧
      after = files.put (around ++ [last]) content := by
  obtain ⟨place, found, put⟩ := bind_eq_ok.mp written
  obtain ⟨around, last, rfl, destined⟩ := destined_of_destination found
  exact ⟨around, last, destined, (Except.ok.inj put).symm⟩

theorem look_write (written : files.write path content = .ok after) :
    after.look path = .ok (.file content) := by
  obtain ⟨around, last, destined, rfl⟩ := exists_destined written
  have leads : (files.put (around ++ [last]) content).LeadsTo path (around ++ [last]) :=
    destined.leadsTo_put_iff.mpr destined.leadsTo
  exact look_eq_ok_iff.mpr ⟨destined.accepted, _, leads, node?_put_self files _ content⟩

theorem holds_write (written : files.write path content = .ok after) : after.holds path = true := by
  rw [holds, look_write written]
  rfl

theorem read_write (written : files.write path content = .ok after) :
    after.read path = .ok content := by
  rw [read, look_write written]
  rfl

theorem read_eq_ok_iff :
    files.read path = .ok content ↔ accept path = .ok () ∧
      ∃ place, files.LeadsTo path place ∧ files.node? place = some (.file content) := by
  have whole : files.read path = .ok content ↔ files.look path = .ok (.file content) := by
    rw [read]
    rcases files.look path with fault | (found | -) <;>
      simp [Bind.bind, Except.bind, pure, Except.pure]
  rw [whole, look_eq_ok_iff]
  rfl

/-- Writing to a path changes no file to which the path does not lead. -/
theorem read_write_of_apart (written : files.write path content = .ok after) {other : String}
    (apart : ¬ files.SamePlace path other) {found : List UInt8} :
    after.read other = .ok found ↔ files.read other = .ok found := by
  obtain ⟨around, last, destined, rfl⟩ := exists_destined written
  have elsewhere (place : Place) (leads : files.LeadsTo other place) :
      (files.put (around ++ [last]) content).node? place = files.node? place := by
    apply destined.node?_put_of_ne
    rintro rfl
    exact apart ⟨_, destined.leadsTo, leads⟩
  simp only [read_eq_ok_iff, destined.leadsTo_put_iff]
  apply and_congr_right
  intro accepted
  apply exists_congr
  intro place
  apply and_congr_right
  intro leads
  rw [elsewhere place leads]

end HeaderLint.Files
