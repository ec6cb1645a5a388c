/-
What writing a file changes. A path leads to one place, and a write changes what stands there and
nothing else: it creates no directory, leaves every other file as it was, and does not move the
working directory. A path below directories that are there can be written to.
-/

import CatalogReader.Files.Tree

namespace CatalogReader.FileTree

/-- What stands in a list of places at a place. -/
theorem node?_of_ne_nil {place : Place} (filled : place ≠ []) (tree : FileTree) :
    tree.node? place = (tree.nodes.find? fun entry => entry.1 == place).map Prod.snd := by
  unfold node?
  rw [if_neg fun empty => filled (List.isEmpty_iff.mp empty)]

theorem node?_put_self {place : Place} (filled : place ≠ []) (tree : FileTree) (text : String) :
    (tree.put place text).node? place = some (.file text) := by
  have gone : (tree.nodes.filter fun entry => entry.1 != place).find?
      (fun entry => entry.1 == place) = none := by
    rw [List.find?_eq_none]
    intro entry member same
    exact bne_iff_ne.mp (List.mem_filter.mp member).2 (beq_iff_eq.mp same)
  have found : [(place, FileNode.file text)].find? (fun entry => entry.1 == place) =
      some (place, .file text) := List.find?_cons_of_pos (beq_self_eq_true place)
  rw [node?_of_ne_nil filled, put, List.find?_append, gone, Option.none_or, found]
  rfl

theorem node?_put_of_ne {place other : Place} (different : other ≠ place) (tree : FileTree)
    (text : String) : (tree.put place text).node? other = tree.node? other := by
  by_cases top : other = []
  · subst top
    rfl
  · have kept : (tree.nodes.filter fun entry => entry.1 != place).find?
        (fun entry => entry.1 == other) = tree.nodes.find? fun entry => entry.1 == other := by
      rw [List.find?_filter]
      refine congrArg (tree.nodes.find? ·) (funext fun entry => ?_)
      refine Bool.eq_iff_iff.mpr (Iff.trans decide_eq_true_iff (and_iff_right_of_imp ?_))
      intro same
      rw [beq_iff_eq.mp same]
      exact bne_iff_ne.mpr different
    have absent : [(place, FileNode.file text)].find? (fun entry => entry.1 == other) = none :=
      List.find?_cons_of_neg fun same => different (beq_iff_eq.mp same).symm
    rw [node?_of_ne_nil top, node?_of_ne_nil top, put, List.find?_append, kept, absent,
      Option.or_none]

/-- A path leads to a place below the root, not to the root itself. -/
theorem ne_nil_of_locateFrom {tree : FileTree} {directory place : Place}
    {components : List (List Char)}
    (found : tree.locateFrom directory components = .ok place) : place ≠ [] := by
  induction components generalizing directory with
  | nil => cases found
  | cons component rest inductionHypothesis =>
    unfold locateFrom at found
    split at found
    · exact inductionHypothesis found
    · split at found
      · cases found
      · dsimp only at found
        split at found
        · exact inductionHypothesis found
        all_goals cases found
        all_goals exact List.append_ne_nil_of_right_ne_nil _ (List.cons_ne_nil _ _)

theorem locate_eq_ok {tree : FileTree} {path : Path} {place : Place}
    (found : tree.locate path = .ok place) :
    tree.locateFrom (tree.start path.start) path.components = .ok place := by
  unfold locate at found
  split at found
  · cases found
  · exact found

/-! ### Where a path leads -/

/-- Components that can be looked up by their names. -/
def AreNames (components : List (List Char)) : Prop :=
  ∀ component ∈ components, component ≠ above ∧ octets component ≤ longestComponent

instance (components : List (List Char)) : Decidable (AreNames components) :=
  inferInstanceAs (Decidable (∀ component ∈ components, _))

theorem locateFrom_of_directories {tree : FileTree} {directory : Place}
    {parents : List (List Char)} {name : List Char} (names : AreNames (parents ++ [name]))
    (directories : ∀ front, front ≠ [] → front <+: parents →
      tree.node? (directory ++ front) = some .directory)
    (free : tree.node? (directory ++ (parents ++ [name])) ≠ some .directory) :
    tree.locateFrom directory (parents ++ [name]) = .ok (directory ++ (parents ++ [name])) := by
  induction parents generalizing directory with
  | nil =>
    obtain ⟨other, short⟩ := names name List.mem_cons_self
    rw [List.nil_append] at free ⊢
    unfold locateFrom
    rw [if_neg other, if_neg (Nat.not_lt_of_le short)]
    dsimp only
    cases found : tree.node? (directory ++ [name]) with
    | none => rfl
    | some node =>
      cases node with
      | directory => exact absurd found free
      | file => rfl
  | cons parent others inductionHypothesis =>
    obtain ⟨⟨other, short⟩, later⟩ := List.forall_mem_cons.mp names
    have whole (rest : List (List Char)) : directory ++ parent :: rest =
        directory ++ [parent] ++ rest := List.append_cons _ _ _
    have found : tree.node? (directory ++ [parent]) = some .directory :=
      directories [parent] (List.cons_ne_nil _ _) (List.prefix_append [parent] others)
    rw [List.cons_append, whole] at free ⊢
    have deeper := inductionHypothesis later (fun front _ inOthers => ?_) free
    · unfold locateFrom
      rw [if_neg other, if_neg (Nat.not_lt_of_le short)]
      dsimp only
      rw [found]
      exact deeper
    · rw [← whole]
      exact directories _ (List.cons_ne_nil _ _) (List.cons_prefix_cons.mpr ⟨rfl, inOthers⟩)

/-- A path below directories that are there leads to the place that its components name. -/
theorem locate_of_directories {tree : FileTree} {path : Path} {parents : List (List Char)}
    {name : List Char} (split : path.components = parents ++ [name])
    (short : octets path.toText.toList < pathLimit) (names : AreNames path.components)
    (directories : ∀ front, front ≠ [] → front <+: parents →
      tree.node? (tree.start path.start ++ front) = some .directory)
    (free : tree.node? (tree.start path.start ++ path.components) ≠ some .directory) :
    tree.locate path = .ok (tree.start path.start ++ path.components) := by
  rw [split] at names free ⊢
  unfold locate
  rw [if_neg (Nat.not_le_of_lt short), split]
  exact locateFrom_of_directories names directories free

/-- Components that do not lead upwards lead to the place that they name. -/
theorem place_of_locateFrom {tree : FileTree} {directory place : Place}
    {components : List (List Char)} (downwards : above ∉ components)
    (found : tree.locateFrom directory components = .ok place) :
    place = directory ++ components := by
  induction components generalizing directory with
  | nil => cases found
  | cons component rest inductionHypothesis =>
    rw [List.mem_cons, not_or] at downwards
    unfold locateFrom at found
    rw [if_neg (Ne.symm downwards.1)] at found
    split at found
    · cases found
    · dsimp only at found
      split at found
      · rw [inductionHypothesis downwards.2 found, List.append_assoc]
        rfl
      case h_2 last | h_4 last =>
        cases found
        rw [List.isEmpty_iff.mp last]
      all_goals cases found

/-! ### What a write changes -/

/-- What writing a text to a path makes of files: the text stands at the one place that the path
leads to, which is the one that it names if it does not lead upwards; every other place is as it
was, and so is the working directory. -/
inductive Wrote (tree : FileTree) (path : Path) (text : String) (after : FileTree) : Prop
  | onto (place : Place) (located : tree.locate path = .ok place)
      (named : above ∉ path.components → place = tree.start path.start ++ path.components)
      (written : after.node? place = some (.file text))
      (elsewhere : ∀ other, other ≠ place → after.node? other = tree.node? other)
      (unmoved : after.here = tree.here)

theorem wrote_of_write {tree after : FileTree} {path : Path} {text : String}
    (written : tree.write path text = .ok after) : tree.Wrote path text after := by
  unfold write at written
  cases located : tree.locate path with
  | error fault =>
    rw [located] at written
    cases written
  | ok place =>
    rw [located] at written
    cases written
    exact .onto place located
      (fun downwards => place_of_locateFrom downwards (locate_eq_ok located))
      (node?_put_self (ne_nil_of_locateFrom (locate_eq_ok located)) tree text)
      (fun other different => node?_put_of_ne different tree text) rfl

/-- A path that a file can be written to. -/
def Writable (tree : FileTree) (path : Path) : Prop :=
  ∃ place, tree.locate path = .ok place

/-- A path below directories that are there can be written to, be it absolute or not. -/
theorem writable_of_directories {tree : FileTree} {path : Path} {parents : List (List Char)}
    {name : List Char} (split : path.components = parents ++ [name])
    (short : octets path.toText.toList < pathLimit) (names : AreNames path.components)
    (directories : ∀ front, front ≠ [] → front <+: parents →
      tree.node? (tree.start path.start ++ front) = some .directory)
    (free : tree.node? (tree.start path.start ++ path.components) ≠ some .directory) :
    tree.Writable path :=
  ⟨_, locate_of_directories split short names directories free⟩

theorem Writable.write {tree : FileTree} {path : Path} (writable : tree.Writable path)
    (text : String) : ∃ after, tree.write path text = .ok after := by
  obtain ⟨place, located⟩ := writable
  unfold FileTree.write
  rw [located]
  exact ⟨_, rfl⟩

end CatalogReader.FileTree
