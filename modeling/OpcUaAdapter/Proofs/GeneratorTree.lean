import OpcUaAdapter.Generator.MapGenerator
import OpcUaAdapter.Library.Paths

/-! The variable tree as a list of nodes: what is where, under which names, and that the
entries of a map file are those of the single nodes one after the other. -/

namespace OpcUaAdapter.Generator

def pathOf (names : List Text) : Text := Paths.join '/' names

theorem pathOf_cons (name : Text) (above : List Text) : pathOf (name :: above) = childPath (pathOf above) name := rfl

theorem pathOf_append (names above : List Text) : pathOf (names ++ above) = pathOf above ++ pathOf names :=
  Paths.join_append names above

inductive TreeNode where
  | dir (place : Place) (name : Text) (above : List Text)
  | var (place : Place × Nat) (name : Text) (above : List Text)
deriving DecidableEq

def TreeNode.name : TreeNode → Text
  | .dir _ name _ => name
  | .var _ name _ => name

def TreeNode.dirPlace : TreeNode → Place
  | .dir place _ _ => place
  | .var place _ _ => place.1

/-- The node is the directory at a place or one that contains it. -/
def TreeNode.contains (place : Place) : TreeNode → Bool
  | .dir other _ _ => other.isSuffixOf place
  | .var _ _ _ => false

/-- The flags a directory at this place is given by the one it lies in. -/
def Options.historizingAbove (options : Options) : Place → Bool
  | [] => false
  | _ :: above => (options.dir above).historizing.isSome

def Options.excludeAbove (options : Options) : Place → Bool
  | [] => false
  | _ :: above => (options.dir above).exclude.isSome

def Options.entriesOf (options : Options) : TreeNode → List MapEntry
  | .dir place name above =>
    XMLDirectory.ownEntries name (pathOf (name :: above)) (options.dir place) (options.historizingAbove place)
      (options.excludeAbove place)
  | .var place name above =>
    XMLVar.generateMapEntry ⟨name⟩ (options.var place) (pathOf above) (options.dir place.1).historizing.isSome
      (options.dir place.1).exclude.isSome

namespace XMLDirectory

def dirs : XMLDirectory → List XMLDirectory
  | .directory _ dirs _ => dirs

def vars : XMLDirectory → List XMLVar
  | .directory _ _ vars => vars

/-- The nodes of a list of variables, from the position `index` on. -/
def varNodes (place : Place) (above : List Text) (index : Nat) : List XMLVar → List TreeNode
  | [] => []
  | var :: rest => .var (place, index) var.name above :: varNodes place above (index + 1) rest

mutual

def nodes (place : Place) (above : List Text) : XMLDirectory → List TreeNode
  | .directory name dirs vars =>
    dirNodes place (name :: above) 0 dirs ++ varNodes place (name :: above) 0 vars ++ [.dir place name above]

def dirNodes (place : Place) (above : List Text) (index : Nat) : List XMLDirectory → List TreeNode
  | [] => []
  | d :: rest => nodes (index :: place) above d ++ dirNodes place above (index + 1) rest

end

private theorem varsEntries_eq (options : Options) (place : Place) (above : List Text) (index : Nat) (vars : List XMLVar) :
    varsEntries options (pathOf above) place (options.dir place).historizing.isSome (options.dir place).exclude.isSome
      index vars = (varNodes place above index vars).flatMap options.entriesOf := by
  induction vars generalizing index with
  | nil => rfl
  | cons var rest ih => rw [varsEntries, ih]; rfl

mutual

theorem generateMapEntries_eq (options : Options) (place : Place) (above : List Text) (d : XMLDirectory) :
    generateMapEntries options (pathOf (d.name :: above)) place (options.historizingAbove place)
      (options.excludeAbove place) d = (nodes place above d).flatMap options.entriesOf := by
  cases d with
  | directory name dirs vars =>
    have contents := dirsEntries_eq options place (name :: above) 0 dirs
    rw [generateMapEntries, nodes, List.flatMap_append, List.flatMap_append]
    rw [← contents, ← varsEntries_eq, List.flatMap_singleton]
    rfl

private theorem dirsEntries_eq (options : Options) (place : Place) (above : List Text) (index : Nat)
    (dirs : List XMLDirectory) :
    dirsEntries options (pathOf above) place (options.dir place).historizing.isSome (options.dir place).exclude.isSome
      index dirs = (dirNodes place above index dirs).flatMap options.entriesOf := by
  cases dirs with
  | nil => rfl
  | cons d rest =>
    have first := generateMapEntries_eq options (index :: place) above d
    have others := dirsEntries_eq options place above (index + 1) rest
    rw [dirsEntries, others, dirNodes, List.flatMap_append, ← first]
    rfl

end

/-- The directory at a place of the tree, and the names on the way to it, the innermost one first. -/
inductive Located (root : XMLDirectory) : Place → List Text → XMLDirectory → Prop
  | root : Located root [] [] root
  | child {place : Place} {above : List Text} {d c : XMLDirectory} {index : Nat} (located : Located root place above d)
      (inside : d.dirs[index]? = some c) : Located root (index :: place) (d.name :: above) c

theorem mem_varNodes {place : Place} {above : List Text} {start : Nat} {vars : List XMLVar} {node : TreeNode} :
    node ∈ varNodes place above start vars ↔
      ∃ index var, vars[index]? = some var ∧ node = .var (place, start + index) var.name above := by
  induction vars generalizing start with
  | nil => simp [varNodes]
  | cons var rest ih =>
    rw [varNodes, List.mem_cons, ih]
    constructor
    · rintro (rfl | ⟨index, v, there, rfl⟩)
      · exact ⟨0, var, rfl, rfl⟩
      · exact ⟨index + 1, v, there, by rw [Nat.add_assoc, Nat.add_comm 1]⟩
    · rintro ⟨_ | index, v, there, rfl⟩
      · cases there
        exact .inl rfl
      · exact .inr ⟨index, v, there, by rw [Nat.add_assoc, Nat.add_comm 1]⟩

private theorem mem_dirNodes {place : Place} {above : List Text} {start : Nat} {dirs : List XMLDirectory} {node : TreeNode} :
    node ∈ dirNodes place above start dirs ↔
      ∃ index d, dirs[index]? = some d ∧ node ∈ nodes ((start + index) :: place) above d := by
  induction dirs generalizing start with
  | nil => simp [dirNodes]
  | cons d rest ih =>
    rw [dirNodes, List.mem_append, ih]
    constructor
    · rintro (here | ⟨index, c, there, member⟩)
      · exact ⟨0, d, rfl, here⟩
      · exact ⟨index + 1, c, there, by rwa [Nat.add_assoc, Nat.add_comm 1] at member⟩
    · rintro ⟨_ | index, c, there, member⟩
      · cases there
        exact .inl member
      · exact .inr ⟨index, c, there, by rwa [Nat.add_assoc, Nat.add_comm 1]⟩

private theorem mem_nodes {place : Place} {above : List Text} {d : XMLDirectory} {node : TreeNode} :
    node ∈ nodes place above d ↔
      (∃ index c, d.dirs[index]? = some c ∧ node ∈ nodes (index :: place) (d.name :: above) c) ∨
      (∃ index var, d.vars[index]? = some var ∧ node = .var (place, index) var.name (d.name :: above)) ∨
      node = .dir place d.name above := by
  cases d with
  | directory name dirs vars =>
    rw [nodes, List.mem_append, List.mem_append, mem_dirNodes, mem_varNodes, List.mem_singleton, or_assoc]
    simp only [Nat.zero_add]
    rfl

variable {root : XMLDirectory}

/-- The outermost of the names on the way to a directory is that of the root. -/
theorem Located.ends_root {place : Place} {above : List Text} {d : XMLDirectory} (located : Located root place above d) :
    d.name :: above = (d.name :: above).dropLast ++ [root.name] := by
  induction located with
  | root => rfl
  | child _ _ ih => rw [List.dropLast_cons_cons, List.cons_append, ← ih]

theorem Located.nodes_subset {place : Place} {above : List Text} {d : XMLDirectory}
    (located : Located root place above d) {node : TreeNode} (member : node ∈ nodes place above d) :
    node ∈ nodes [] [] root := by
  induction located with
  | root => exact member
  | child _ inside ih => exact ih (mem_nodes.mpr (.inl ⟨_, _, inside, member⟩))

theorem Located.directory_mem {place : Place} {above : List Text} {d : XMLDirectory}
    (located : Located root place above d) : .dir place d.name above ∈ nodes [] [] root :=
  located.nodes_subset (mem_nodes.mpr (.inr (.inr rfl)))

theorem Located.variable_mem {place : Place} {above : List Text} {d : XMLDirectory} {index : Nat} {var : XMLVar}
    (located : Located root place above d) (inside : d.vars[index]? = some var) :
    .var (place, index) var.name (d.name :: above) ∈ nodes [] [] root :=
  located.nodes_subset (mem_nodes.mpr (.inr (.inl ⟨_, _, inside, rfl⟩)))

def Stands (root : XMLDirectory) : TreeNode → Prop
  | .dir place name above => ∃ d, Located root place above d ∧ d.name = name
  | .var place name above =>
    ∃ d var higher, Located root place.1 higher d ∧ above = d.name :: higher ∧ d.vars[place.2]? = some var ∧ var.name = name

mutual

private theorem stands_of_mem_nodes {place : Place} {above : List Text} {node : TreeNode} (d : XMLDirectory)
    (located : Located root place above d) (member : node ∈ nodes place above d) : Stands root node := by
  cases d with
  | directory name dirs vars =>
    rw [nodes, List.mem_append, List.mem_append, List.mem_singleton] at member
    rcases member with (inside | here) | rfl
    · refine stands_of_mem_dirNodes 0 dirs (fun index c there => ?_) inside
      rw [Nat.zero_add]
      exact .child located there
    · obtain ⟨index, var, there, rfl⟩ := mem_varNodes.mp here
      rw [Nat.zero_add]
      exact ⟨_, var, above, located, rfl, there, rfl⟩
    · exact ⟨_, located, rfl⟩

private theorem stands_of_mem_dirNodes {place : Place} {above : List Text} {node : TreeNode} (start : Nat)
    (dirs : List XMLDirectory)
    (located : ∀ index c, dirs[index]? = some c → Located root ((start + index) :: place) above c)
    (member : node ∈ dirNodes place above start dirs) : Stands root node := by
  cases dirs with
  | nil => cases member
  | cons d rest =>
    rcases List.mem_append.mp member with here | later
    · exact stands_of_mem_nodes d (located 0 d rfl) here
    · refine stands_of_mem_dirNodes (start + 1) rest (fun index c there => ?_) later
      rw [Nat.add_assoc, Nat.add_comm 1]
      exact located (index + 1) c there

end

/-- The nodes of the tree are its directories and variables, each with its names. -/
theorem mem_nodes_iff {node : TreeNode} : node ∈ nodes [] [] root ↔ Stands root node := by
  constructor
  · exact stands_of_mem_nodes root .root
  · cases node with
    | dir place name above =>
      rintro ⟨d, located, rfl⟩
      exact located.directory_mem
    | var place name above =>
      rintro ⟨d, var, higher, located, rfl, inside, rfl⟩
      exact located.variable_mem inside

mutual

private theorem suffix_of_mem_nodes {place : Place} {above : List Text} {node : TreeNode} (d : XMLDirectory)
    (member : node ∈ nodes place above d) : place <:+ node.dirPlace := by
  cases d with
  | directory name dirs vars =>
    rw [nodes, List.mem_append, List.mem_append, List.mem_singleton] at member
    rcases member with (inside | here) | rfl
    · obtain ⟨index, below⟩ := suffix_of_mem_dirNodes 0 dirs inside
      exact (List.suffix_cons _ _).trans below.2
    · obtain ⟨index, var, there, rfl⟩ := mem_varNodes.mp here
      exact List.suffix_rfl
    · exact List.suffix_rfl

private theorem suffix_of_mem_dirNodes {place : Place} {above : List Text} {node : TreeNode} (start : Nat)
    (dirs : List XMLDirectory) (member : node ∈ dirNodes place above start dirs) :
    ∃ index, start ≤ index ∧ index :: place <:+ node.dirPlace := by
  cases dirs with
  | nil => cases member
  | cons d rest =>
    rcases List.mem_append.mp member with here | later
    · exact ⟨start, Nat.le_refl _, suffix_of_mem_nodes d here⟩
    · obtain ⟨index, behind, below⟩ := suffix_of_mem_dirNodes (start + 1) rest later
      exact ⟨index, Nat.le_of_succ_le behind, below⟩

end

private theorem contains_eq_false {place : Place} {node : TreeNode} (outside : ¬ node.dirPlace <:+ place) :
    node.contains place = false := by
  cases node with
  | var => rfl
  | dir other =>
    refine Bool.eq_false_iff.mpr fun within => outside ?_
    exact List.isSuffixOf_iff_suffix.mp within

private theorem index_unique {place other : Place} {first second : Nat} (here : first :: place <:+ other)
    (there : second :: place <:+ other) : first = second := by
  have same : first :: place = second :: place := (List.suffix_of_suffix_length_le here there (by simp)).eq_of_length rfl
  exact (List.cons.inj same).1

private theorem filter_dirNodes {place target : Place} {above : List Text} {start index : Nat} {dirs : List XMLDirectory}
    {c : XMLDirectory} (inside : dirs[index]? = some c) (towards : (start + index) :: place <:+ target) :
    (dirNodes place above start dirs).filter (·.contains target) =
      (nodes ((start + index) :: place) above c).filter (·.contains target) := by
  induction dirs generalizing start index with
  | nil => cases inside
  | cons d rest ih =>
    rw [dirNodes, List.filter_append]
    cases index with
    | zero =>
      cases inside
      have others : (dirNodes place above (start + 1) rest).filter (·.contains target) = [] := by
        refine List.filter_eq_nil_iff.mpr fun node member => ?_
        obtain ⟨index, behind, below⟩ := suffix_of_mem_dirNodes (start + 1) rest member
        rw [contains_eq_false fun within => ?_]
        · exact Bool.false_ne_true
        · have := index_unique towards (below.trans within)
          omega
      rw [others, List.append_nil]
      rfl
    | succ index =>
      have before : (nodes (start :: place) above d).filter (·.contains target) = [] := by
        refine List.filter_eq_nil_iff.mpr fun node member => ?_
        rw [contains_eq_false fun within => ?_]
        · exact Bool.false_ne_true
        · have := index_unique towards ((suffix_of_mem_nodes d member).trans within)
          omega
      have shifted : start + (index + 1) = start + 1 + index := by omega
      rw [shifted] at towards ⊢
      rw [before, List.nil_append]
      exact ih inside towards

private theorem filter_varNodes (place target : Place) (above : List Text) (start : Nat) (vars : List XMLVar) :
    (varNodes place above start vars).filter (·.contains target) = [] := by
  refine List.filter_eq_nil_iff.mpr fun node member => ?_
  obtain ⟨_, _, _, rfl⟩ := mem_varNodes.mp member
  exact Bool.false_ne_true

private theorem filter_self {place target : Place} (name : Text) (above : List Text) (upwards : place <:+ target) :
    [TreeNode.dir place name above].filter (·.contains target) = [.dir place name above] := by
  rw [List.filter_singleton, TreeNode.contains, List.isSuffixOf_iff_suffix.mpr upwards]
  rfl

/-- The directories on the way to the root, the innermost one first. -/
def pathNodes : Place → List Text → List TreeNode
  | place, name :: above => .dir place name above :: pathNodes place.tail above
  | _, [] => []

/-- The directories that contain a place are listed from the inside out. -/
theorem Located.filter_nodes {place : Place} {above : List Text} {d : XMLDirectory}
    (located : Located root place above d) :
    (nodes [] [] root).filter (·.contains place) = pathNodes place (d.name :: above) := by
  have outer {target other : Place} {higher : List Text} {c : XMLDirectory} (there : Located root other higher c)
      (upwards : other <:+ target) : (nodes [] [] root).filter (·.contains target) =
        (nodes other higher c).filter (·.contains target) ++ pathNodes other.tail higher := by
    induction there with
    | root => exact (List.append_nil _).symm
    | @child place above d c index located inside ih =>
      rw [ih ((List.suffix_cons _ _).trans upwards)]
      cases d with
      | directory name dirs vars =>
        have below := @filter_dirNodes place target (name :: above) 0 index dirs c inside (by rwa [Nat.zero_add])
        have here := filter_self name above ((List.suffix_cons index place).trans upwards)
        rw [Nat.zero_add] at below
        rw [nodes, List.filter_append, List.filter_append, below, filter_varNodes, here, List.append_nil,
          List.append_assoc]
        rfl
  rw [outer located List.suffix_rfl]
  cases d with
  | directory name dirs vars =>
    have below : (dirNodes place (name :: above) 0 dirs).filter (·.contains place) = [] := by
      refine List.filter_eq_nil_iff.mpr fun node member => ?_
      obtain ⟨index, _, below⟩ := suffix_of_mem_dirNodes 0 dirs member
      rw [contains_eq_false fun within => ?_]
      · exact Bool.false_ne_true
      · have longer := (below.trans within).length_le
        rw [List.length_cons] at longer
        omega
    have here := @filter_self place place name above List.suffix_rfl
    rw [nodes, List.filter_append, List.filter_append, below, filter_varNodes, here]
    rfl

end XMLDirectory

end OpcUaAdapter.Generator
