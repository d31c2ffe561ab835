import OpcUaAdapter.Proofs.GeneratorTree

/-! Trees with the names an application can give: that a directory or variable is found by
its path, and only by that. -/

namespace OpcUaAdapter.Generator
namespace XMLDirectory

/-- A name an application can use: the names are the components of its variables' paths. -/
def properName (name : Text) : Bool := !name.isEmpty && !name.contains '/'

mutual

/-- All names are proper, and directories and variables differ in name from those next to them. -/
def wellNamed : XMLDirectory → Bool
  | .directory _ dirs vars =>
    (dirs.map name).all properName && (dirs.map name).Nodup && (vars.map XMLVar.name).all properName &&
      (vars.map XMLVar.name).Nodup && wellNamedDirs dirs

def wellNamedDirs : List XMLDirectory → Bool
  | [] => true
  | d :: rest => wellNamed d && wellNamedDirs rest

end

structure WellNamed (d : XMLDirectory) : Prop where
  dirs_proper : ∀ c ∈ d.dirs, properName c.name = true
  dirs_distinct : (d.dirs.map name).Nodup
  vars_proper : ∀ var ∈ d.vars, properName var.name = true
  vars_distinct : (d.vars.map XMLVar.name).Nodup
  deeper : ∀ c ∈ d.dirs, wellNamed c = true

private theorem wellNamedDirs_mem {dirs : List XMLDirectory} (all : wellNamedDirs dirs = true) {c : XMLDirectory}
    (member : c ∈ dirs) : wellNamed c = true := by
  induction dirs with
  | nil => cases member
  | cons d rest ih =>
    rw [wellNamedDirs, Bool.and_eq_true] at all
    rcases List.mem_cons.mp member with rfl | later
    · exact all.1
    · exact ih all.2 later

theorem wellNamed_spec {d : XMLDirectory} (named : wellNamed d = true) : WellNamed d := by
  cases d with
  | directory name dirs vars =>
    simp only [wellNamed, Bool.and_eq_true, List.all_eq_true, List.forall_mem_map, decide_eq_true_eq] at named
    obtain ⟨⟨⟨⟨dirs_proper, dirs_distinct⟩, vars_proper⟩, vars_distinct⟩, deeper⟩ := named
    exact ⟨dirs_proper, dirs_distinct, vars_proper, vars_distinct, fun c member => wellNamedDirs_mem deeper member⟩

theorem properName_iff {name : Text} : properName name = true ↔ name ≠ [] ∧ '/' ∉ name := by
  simp [properName]

variable {root : XMLDirectory}

theorem Located.wellNamed {place : Place} {above : List Text} {d : XMLDirectory} (located : Located root place above d)
    (named : root.wellNamed = true) : d.wellNamed = true := by
  induction located with
  | root => exact named
  | child _ inside ih => exact (wellNamed_spec ih).deeper _ (List.mem_of_getElem? inside)

theorem Located.unique {place : Place} {above other : List Text} {d c : XMLDirectory}
    (here : Located root place above d) (there : Located root place other c) : above = other ∧ d = c := by
  induction here generalizing other c with
  | root => cases there; exact ⟨rfl, rfl⟩
  | child _ inside ih =>
    cases there with
    | child located within =>
      obtain ⟨rfl, rfl⟩ := ih located
      exact ⟨rfl, Option.some.inj (inside.symm.trans within)⟩

/-- All names of a well named tree are proper, but for that of the root. -/
theorem Located.proper {place : Place} {above : List Text} {d : XMLDirectory} (located : Located root place above d)
    (named : root.wellNamed = true) (plain : '/' ∉ root.name) : ∀ name ∈ d.name :: above, '/' ∉ name := by
  induction located with
  | root =>
    intro name member
    rw [List.mem_singleton.mp member]
    exact plain
  | child located inside ih =>
    intro name member
    rcases List.mem_cons.mp member with rfl | higher
    · exact (properName_iff.mp ((wellNamed_spec (located.wellNamed named)).dirs_proper _
        (List.mem_of_getElem? inside))).2
    · exact ih name higher

private theorem eq_index_of_nodup {list : List α} {key : α → β} (distinct : (list.map key).Nodup) {i j : Nat} {a b : α}
    (here : list[i]? = some a) (there : list[j]? = some b) (same : key a = key b) : i = j := by
  have first : (list.map key)[i]? = some (key a) := by rw [List.getElem?_map, here]; rfl
  have second : (list.map key)[j]? = some (key a) := by rw [List.getElem?_map, there, same]; rfl
  exact (List.getElem?_inj (List.getElem?_eq_some_iff.mp first).1 distinct).mp (first.trans second.symm)

/-- Directories with the same names on the way to them are the same. -/
theorem Located.place_eq {place other : Place} {above higher : List Text} {d c : XMLDirectory}
    (named : root.wellNamed = true) (here : Located root place above d) (there : Located root other higher c)
    (same : d.name :: above = c.name :: higher) : place = other := by
  induction here generalizing other higher c with
  | root =>
    cases there with
    | root => rfl
    | child => cases (List.cons.inj same).2
  | child located inside ih =>
    cases there with
    | root => cases (List.cons.inj same).2
    | child outer within =>
      obtain ⟨own, rest⟩ := List.cons.inj same
      obtain rfl := ih outer rest
      obtain ⟨_, rfl⟩ := located.unique outer
      rw [eq_index_of_nodup (wellNamed_spec (located.wellNamed named)).dirs_distinct inside within own]

/-- The names on the way to a directory end with that of the root and are proper before it. -/
theorem Located.names {place : Place} {above : List Text} {d : XMLDirectory} (located : Located root place above d)
    (named : root.wellNamed = true) :
    ∃ inner, d.name :: above = inner ++ [root.name] ∧ inner.length = place.length ∧
      ∀ name ∈ inner, properName name = true := by
  induction located with
  | root => exact ⟨[], rfl, rfl, by simp⟩
  | child located inside ih =>
    obtain ⟨inner, names, length, proper⟩ := ih
    refine ⟨_ :: inner, by rw [names, List.cons_append], by rw [List.length_cons, List.length_cons, length], ?_⟩
    exact List.forall_mem_cons.mpr ⟨(wellNamed_spec (located.wellNamed named)).dirs_proper _
      (List.mem_of_getElem? inside), proper⟩

/-- There is a directory at every place above one. -/
theorem Located.suffix {place higher : Place} {above : List Text} {d : XMLDirectory} (located : Located root place above d)
    (upwards : higher <:+ place) : ∃ names c, Located root higher names c := by
  induction located with
  | root =>
    obtain rfl := List.suffix_nil.mp upwards
    exact ⟨_, _, .root⟩
  | child located inside ih =>
    rcases List.suffix_cons_iff.mp upwards with rfl | inner
    · exact ⟨_, _, located.child inside⟩
    · exact ih inner

/-- A directory lies below another one exactly when its names continue those of the other one. -/
theorem Located.suffix_iff {place other : Place} {above higher : List Text} {d c : XMLDirectory}
    (named : root.wellNamed = true) (here : Located root place above d) (there : Located root other higher c) :
    c.name :: higher <:+ d.name :: above ↔ other <:+ place := by
  induction here with
  | root =>
    constructor
    · intro below
      have single : c.name :: higher = [root.name] :=
        below.eq_of_length (Nat.le_antisymm below.length_le (by simp))
      exact Located.place_eq named there .root single ▸ List.suffix_rfl
    · intro below
      obtain rfl := List.suffix_nil.mp below
      obtain ⟨rfl, rfl⟩ := there.unique .root
      exact List.suffix_rfl
  | child located inside ih =>
    rw [List.suffix_cons_iff, ih, List.suffix_cons_iff]
    refine or_congr_left' fun _ => ⟨fun same => ?_, fun same => ?_⟩
    · exact Located.place_eq named there (located.child inside) same
    · subst same
      obtain ⟨rfl, rfl⟩ := there.unique (located.child inside)
      rfl

mutual

private theorem findDir_sound {target : Text} {place : Place} {above : List Text} {found : DirectoryReference}
    (d : XMLDirectory) (located : Located root place above d)
    (search : findDir target (pathOf (d.name :: above)) place d = some found) :
    ∃ higher c, Located root found.place higher c ∧ found.name = c.name ∧ found.path = pathOf (c.name :: higher) ∧
      found.path = target := by
  cases d with
  | directory name dirs vars =>
    rw [findDir] at search
    split at search
    next same =>
      cases search
      exact ⟨above, _, located, rfl, rfl, same⟩
    next =>
      refine findDirIn_sound 0 dirs (fun index c there => ?_) search
      rw [Nat.zero_add]
      exact .child located there

private theorem findDirIn_sound {target : Text} {place : Place} {above : List Text} {found : DirectoryReference} (start : Nat)
    (dirs : List XMLDirectory)
    (located : ∀ index c, dirs[index]? = some c → Located root ((start + index) :: place) above c)
    (search : findDirIn target (pathOf above) place start dirs = some found) :
    ∃ higher c, Located root found.place higher c ∧ found.name = c.name ∧ found.path = pathOf (c.name :: higher) ∧
      found.path = target := by
  cases dirs with
  | nil => cases search
  | cons d rest =>
    rw [findDirIn] at search
    split at search
    next same =>
      cases search
      exact ⟨above, d, located 0 d rfl, rfl, rfl, same⟩
    next =>
      split at search
      next inner =>
        cases search
        exact findDir_sound d (located 0 d rfl) inner
      next =>
        refine findDirIn_sound (start + 1) rest (fun index c there => ?_) search
        rw [Nat.add_assoc, Nat.add_comm 1]
        exact located (index + 1) c there

end

mutual

private theorem findDir_complete {start place : Place} {above higher : List Text} {name : Text} (d : XMLDirectory)
    (member : .dir place name higher ∈ nodes start above d) :
    (findDir (pathOf (name :: higher)) (pathOf (d.name :: above)) start d).isSome := by
  cases d with
  | directory own dirs vars =>
    rw [findDir]
    split
    · rfl
    next other =>
      rw [nodes, List.mem_append, List.mem_append, List.mem_singleton] at member
      rcases member with (inside | here) | same
      · exact findDirIn_complete 0 dirs inside
      · obtain ⟨_, _, _, impossible⟩ := mem_varNodes.mp here
        cases impossible
      · cases same
        exact absurd rfl other

private theorem findDirIn_complete {start place : Place} {above higher : List Text} {name : Text} (index : Nat)
    (dirs : List XMLDirectory) (member : .dir place name higher ∈ dirNodes start above index dirs) :
    (findDirIn (pathOf (name :: higher)) (pathOf above) start index dirs).isSome := by
  cases dirs with
  | nil => cases member
  | cons d rest =>
    rw [findDirIn]
    split
    · rfl
    · rcases List.mem_append.mp member with here | later
      · obtain ⟨found, search⟩ := Option.isSome_iff_exists.mp (findDir_complete d here)
        split
        · rfl
        next missing => cases missing.symm.trans search
      · split
        · rfl
        · exact findDirIn_complete (index + 1) rest later

end

/-- A directory is found by its path. -/
theorem Located.findDir {place : Place} {above : List Text} {d : XMLDirectory} (located : Located root place above d)
    (named : root.wellNamed = true) (plain : '/' ∉ root.name) :
    root.findDir (pathOf (d.name :: above)) (pathOf [root.name]) [] =
      some { place, name := d.name, path := pathOf (d.name :: above) } := by
  obtain ⟨found, search⟩ := Option.isSome_iff_exists.mp (findDir_complete root located.directory_mem)
  obtain ⟨higher, c, there, name, path, same⟩ := findDir_sound root .root search
  have names : d.name :: above = c.name :: higher :=
    Paths.join_inj (located.proper named plain) (there.proper named plain) (same.symm.trans path)
  have places := located.place_eq named there names
  rw [search]
  exact congrArg some (DirectoryReference.ext places.symm (name.trans (List.cons.inj names).1.symm) same)

private theorem findVarHere_sound {target : Text} {place : Place} {above : List Text} {found : VariableReference} (start : Nat)
    (vars : List XMLVar) (search : findVarHere target (pathOf above) place start vars = some found) :
    ∃ index var, vars[index]? = some var ∧ found = { place := (place, start + index), name := var.name } ∧
      pathOf (var.name :: above) = target := by
  induction vars generalizing start with
  | nil => cases search
  | cons var rest ih =>
    rw [findVarHere] at search
    split at search
    next same =>
      cases search
      exact ⟨0, var, rfl, rfl, same⟩
    next =>
      obtain ⟨index, v, there, rfl, same⟩ := ih (start + 1) search
      exact ⟨index + 1, v, there, by rw [Nat.add_assoc, Nat.add_comm 1], same⟩

private theorem findVarHere_complete {target : Text} {place : Place} {above : List Text} (start : Nat) {vars : List XMLVar}
    {var : XMLVar} (member : var ∈ vars) (same : pathOf (var.name :: above) = target) :
    (findVarHere target (pathOf above) place start vars).isSome := by
  induction vars generalizing start with
  | nil => cases member
  | cons v rest ih =>
    rw [findVarHere]
    split
    · rfl
    next other =>
      rcases List.mem_cons.mp member with rfl | later
      · exact absurd same other
      · exact ih (start + 1) later

/-- What the search for a variable has found. -/
def FoundVar (root : XMLDirectory) (target : Text) (found : VariableReference) : Prop :=
  ∃ higher d index var, Located root found.place.1 higher d ∧ d.vars[index]? = some var ∧ found.place.2 = index ∧
    found.name = var.name ∧ pathOf (var.name :: d.name :: higher) = target

mutual

private theorem findVar_sound {target : Text} {place : Place} {above : List Text} {found : VariableReference}
    (d : XMLDirectory) (located : Located root place above d)
    (search : findVar target (pathOf (d.name :: above)) place d = some found) : FoundVar root target found := by
  cases d with
  | directory name dirs vars =>
    rw [findVar] at search
    split at search
    next here =>
      cases search
      obtain ⟨index, var, there, rfl, same⟩ := findVarHere_sound 0 vars here
      exact ⟨above, _, index, var, located, there, Nat.zero_add index, rfl, same⟩
    next =>
      refine findVarIn_sound 0 dirs (fun index c there => ?_) search
      rw [Nat.zero_add]
      exact .child located there

private theorem findVarIn_sound {target : Text} {place : Place} {above : List Text} {found : VariableReference} (start : Nat)
    (dirs : List XMLDirectory)
    (located : ∀ index c, dirs[index]? = some c → Located root ((start + index) :: place) above c)
    (search : findVarIn target (pathOf above) place start dirs = some found) : FoundVar root target found := by
  cases dirs with
  | nil => cases search
  | cons d rest =>
    rw [findVarIn] at search
    split at search
    next inner =>
      cases search
      exact findVar_sound d (located 0 d rfl) inner
    next =>
      refine findVarIn_sound (start + 1) rest (fun index c there => ?_) search
      rw [Nat.add_assoc, Nat.add_comm 1]
      exact located (index + 1) c there

end

mutual

private theorem findVar_complete {target : Text} {start : Place} {place : Place × Nat} {above higher : List Text} {name : Text}
    (d : XMLDirectory) (member : .var place name higher ∈ nodes start above d)
    (same : pathOf (name :: higher) = target) : (findVar target (pathOf (d.name :: above)) start d).isSome := by
  cases d with
  | directory own dirs vars =>
    rw [findVar]
    split
    · rfl
    next missing =>
      rw [nodes, List.mem_append, List.mem_append, List.mem_singleton] at member
      rcases member with (inside | here) | impossible
      · exact findVarIn_complete 0 dirs inside same
      · obtain ⟨index, var, there, shape⟩ := mem_varNodes.mp here
        cases shape
        obtain ⟨found, search⟩ := Option.isSome_iff_exists.mp
          (@findVarHere_complete _ start _ 0 _ _ (List.mem_of_getElem? there) same)
        cases missing.symm.trans search
      · cases impossible

private theorem findVarIn_complete {target : Text} {start : Place} {place : Place × Nat} {above higher : List Text}
    {name : Text} (index : Nat) (dirs : List XMLDirectory) (member : .var place name higher ∈ dirNodes start above index dirs)
    (same : pathOf (name :: higher) = target) : (findVarIn target (pathOf above) start index dirs).isSome := by
  cases dirs with
  | nil => cases member
  | cons d rest =>
    rw [findVarIn]
    split
    · rfl
    next missing =>
      rcases List.mem_append.mp member with here | later
      · obtain ⟨found, search⟩ := Option.isSome_iff_exists.mp (findVar_complete d here same)
        cases missing.symm.trans search
      · exact findVarIn_complete (index + 1) rest later same

end

/-- A variable is found by its path. -/
theorem Located.findVar {place : Place} {above : List Text} {d : XMLDirectory} {index : Nat} {var : XMLVar}
    (located : Located root place above d) (inside : d.vars[index]? = some var) (named : root.wellNamed = true)
    (plain : '/' ∉ root.name) :
    root.findVar (pathOf (var.name :: d.name :: above)) (pathOf [root.name]) [] =
      some { place := (place, index), name := var.name } := by
  obtain ⟨found, search⟩ := Option.isSome_iff_exists.mp (findVar_complete root (located.variable_mem inside) rfl)
  obtain ⟨higher, c, other, v, there, within, position, name, same⟩ := findVar_sound root .root search
  have var_plain (e : XMLDirectory) (q : Place) (up : List Text) (at_place : Located root q up e) (w : XMLVar)
      (member : w ∈ e.vars) : Paths.Plain '/' (w.name :: e.name :: up) := by
    intro name member_name
    rcases List.mem_cons.mp member_name with rfl | later
    · exact (properName_iff.mp ((wellNamed_spec (at_place.wellNamed named)).vars_proper w member)).2
    · exact at_place.proper named plain name later
  have names := Paths.join_inj (var_plain c _ _ there v (List.mem_of_getElem? within))
    (var_plain d _ _ located var (List.mem_of_getElem? inside)) same
  obtain ⟨own, rest⟩ := List.cons.inj names
  have places := located.place_eq named there rest.symm
  obtain ⟨_, rfl⟩ := located.unique (places ▸ there)
  have positions := eq_index_of_nodup (wellNamed_spec (located.wellNamed named)).vars_distinct inside within own.symm
  rw [search]
  exact congrArg some (VariableReference.ext (Prod.ext places.symm (position.trans positions.symm)) (name.trans own))

def sourceOf (names : List Text) : Text := removePrefix (pathOf names) "/root/"

/-- Below the root, a source name and the path belong together. -/
theorem root_sourceOf {inner : List Text} (below : inner ≠ []) :
    "/root/".toList ++ sourceOf (inner ++ ["root".toList]) = pathOf (inner ++ ["root".toList]) := by
  have path : pathOf (inner ++ ["root".toList]) = "/root".toList ++ pathOf inner := pathOf_append _ _
  have start : ∃ rest, pathOf inner = '/' :: rest := by
    clear path
    induction inner with
    | nil => exact absurd rfl below
    | cons name above ih =>
      cases above with
      | nil => exact ⟨name, rfl⟩
      | cons next above =>
        obtain ⟨rest, shape⟩ := ih (by simp)
        exact ⟨rest ++ '/' :: name, by rw [pathOf_cons, shape]; rfl⟩
  obtain ⟨rest, shape⟩ := start
  rw [shape] at path
  have within : "/root/".toList.isPrefixOf (pathOf (inner ++ ["root".toList])) = true := by rw [path]; rfl
  rw [sourceOf, removePrefix, if_pos within, path]
  rfl

/-- A source name starts with a name, not with a slash. -/
theorem sourceOf_start {inner : List Text} (below : inner ≠ []) (proper : ∀ name ∈ inner, properName name = true)
    (rest : Text) : sourceOf (inner ++ ["root".toList]) ≠ '/' :: rest := by
  intro slash
  obtain ⟨lower, outer, rfl⟩ := (List.eq_nil_or_concat inner).resolve_left below
  have path := root_sourceOf below
  rw [slash, List.concat_eq_append, List.append_assoc, pathOf_append, pathOf_append] at path
  obtain ⟨filled, plain⟩ := properName_iff.mp (proper outer (by simp))
  cases outer with
  | nil => exact filled rfl
  | cons c outer =>
    have same : "/root/".toList ++ '/' :: rest = "/root/".toList ++ c :: (outer ++ pathOf lower) := path
    rw [(List.cons.inj (List.append_cancel_left same)).1] at plain
    exact plain List.mem_cons_self

end XMLDirectory
end OpcUaAdapter.Generator
