import PatternCheck.Files
import PatternCheck.Proofs.Keyed

/-
Trees of files. The parts of a path between slashes are names again
(`split_joined`); and where no file is on the way to another one
(`IsTree`), every path below the top is that of a file, that of a directory,
or leads nowhere.
-/

namespace PatternCheck.Files

variable {cs : List Char} {names : List String}

-- ================================================================= paths

/-- Names, each with a slash before it. -/
def joined (names : List String) : List Char :=
  names.flatMap fun name => '/' :: name.toList

theorem joined_cons (name : String) (names : List String) :
    joined (name :: names) = '/' :: (name.toList ++ joined names) := rfl

/-- What has no slash in it goes on the name that is being read. -/
theorem splitFrom_append (h : '/' ∉ cs) (rest : List Char) :
    ∀ name : List Char, splitFrom name (cs ++ rest)
      = splitFrom (cs.reverse ++ name) rest := by
  induction cs with
  | nil => exact fun _ => rfl
  | cons c cs ih =>
    intro name
    obtain ⟨hc, hcs⟩ := not_or.1 (mt List.mem_cons.2 h)
    rw [List.cons_append, splitFrom, if_neg (Ne.symm hc), ih hcs,
      List.reverse_cons, List.append_assoc, List.singleton_append]

/-- In front of a first slash is an empty name. -/
theorem split_slash (cs : List Char) :
    split (String.ofList ('/' :: cs)) = "" :: split (String.ofList cs) := by
  rw [split, split, String.toList_ofList, String.toList_ofList, splitFrom,
    if_pos rfl]
  rfl

/-- A path is taken apart at the slashes that it was joined with. -/
theorem splitFrom_joined (h : ∀ name ∈ names, '/' ∉ name.toList) :
    ∀ name : List Char, splitFrom name (joined names)
      = String.ofList name.reverse :: names := by
  induction names with
  | nil => exact fun _ => rfl
  | cons next names ih =>
    intro name
    rw [joined_cons, splitFrom, if_pos rfl,
      splitFrom_append (h next (List.mem_cons_self ..)), List.append_nil,
      ih fun other mem => h other (List.mem_cons_of_mem _ mem),
      List.reverse_reverse, String.ofList_toList]

/-- Before the first slash there is nothing. -/
theorem split_joined (h : ∀ name ∈ names, '/' ∉ name.toList) :
    split (String.ofList (joined names)) = "" :: names := by
  rw [split, String.toList_ofList, splitFrom_joined h]
  rfl

/-- The names on a path, without those that lead nowhere. -/
def namesOn (cs : List Char) : List String :=
  (split (String.ofList cs)).filter fun name => name ≠ "" && name ≠ "."

/-- Slashes at the beginning of a path change nothing. -/
theorem namesOn_slashes {slashes : List Char} (h : ∀ c ∈ slashes, c = '/')
    (cs : List Char) :
    namesOn (slashes ++ cs) = namesOn cs
      ∧ (".." ∈ split (String.ofList (slashes ++ cs)) ↔
        ".." ∈ split (String.ofList cs)) := by
  induction slashes with
  | nil => exact ⟨rfl, Iff.rfl⟩
  | cons c slashes ih =>
    obtain ⟨same, up⟩ := ih fun c' hc' => h c' (List.mem_cons_of_mem _ hc')
    obtain rfl := h c (List.mem_cons_self ..)
    rw [List.cons_append, namesOn, split_slash,
      List.filter_cons_of_neg (by simp), List.mem_cons]
    exact ⟨same, (or_iff_right (by decide)).trans up⟩

-- ================================================================= trees

/-- A name that a file or a directory can have. -/
structure IsName (name : String) : Prop where
  some : name ≠ ""
  elsewhere : name ≠ "." ∧ name ≠ ".."
  whole : '/' ∉ name.toList

namespace IsName

variable {name : String}

/-- A name is not empty. -/
theorem toList_ne_nil (h : IsName name) : name.toList ≠ [] := fun empty =>
  h.some (String.toList_eq_nil_iff.1 empty)

/-- So a name does not begin with a slash, whatever comes after it. -/
theorem head?_ne_slash (h : IsName name) (rest : List Char) :
    (name.toList ++ rest).head? ≠ Option.some '/' := by
  have whole := h.whole
  cases letters : name.toList with
  | nil => exact absurd letters h.toList_ne_nil
  | cons c cs =>
    rw [letters] at whole
    exact fun slash => whole (Option.some.inj slash ▸ List.mem_cons_self ..)

end IsName

/-- A path leads to the names that it was joined of, and none of them leads
upwards. -/
theorem namesOn_joined (h : ∀ name ∈ names, IsName name) :
    namesOn (joined names) = names
      ∧ ".." ∉ split (String.ofList (joined names)) := by
  rw [namesOn, split_joined fun name mem => (h name mem).whole]
  constructor
  · rw [List.filter_cons_of_neg (by simp), List.filter_eq_self]
    exact fun name mem => by simp [(h name mem).some, (h name mem).elsewhere.1]
  · rw [List.mem_cons, not_or]
    exact ⟨by decide, fun mem => (h _ mem).elsewhere.2 rfl⟩

/-- Files that are a tree: each has a path of its own, and none is on the
way to another one. -/
structure IsTree (fs : Files) : Prop where
  below : ∀ e ∈ fs.entries, e.1 ≠ []
  names : ∀ e ∈ fs.entries, ∀ name ∈ e.1, IsName name
  distinct : (fs.entries.map (·.1)).Nodup
  apart : ∀ e ∈ fs.entries, ∀ e' ∈ fs.entries, e.1 <+: e'.1 → e.1 = e'.1

variable {fs : Files} {path : List String} {f : File}

theorem mem_of_file? (h : fs.file? path = some f) : (path, f) ∈ fs.entries :=
  Keyed.mem_of_lookup h

/-- Directories are the root and whatever stands in the path of a file, in
front of its last name. -/
theorem isDirectory_eq_true :
    fs.isDirectory path = true ↔
      path = [] ∨ ∃ e ∈ fs.entries, path <+: e.1
        ∧ path.length < e.1.length := by
  simp [isDirectory]

namespace IsTree

/-- A tree has one file at the path of each of its entries. -/
theorem file?_of_mem (tree : fs.IsTree) (h : (path, f) ∈ fs.entries) :
    fs.file? path = some f :=
  Keyed.lookup_of_mem tree.distinct h

/-- There is no directory where there is a file. -/
theorem not_isDirectory (tree : fs.IsTree) (h : (path, f) ∈ fs.entries) :
    fs.isDirectory path = false := by
  refine Bool.eq_false_iff.2 fun directory => ?_
  rcases isDirectory_eq_true.1 directory with top | ⟨e, he, before, shorter⟩
  · exact tree.below _ h top
  · have same := tree.apart _ h e he before
    rw [← same] at shorter
    exact Nat.lt_irrefl _ shorter

/-- The path of a directory is made of names. -/
theorem names_of_isDirectory (tree : fs.IsTree)
    (h : fs.isDirectory path = true) : ∀ name ∈ path, IsName name := by
  rcases isDirectory_eq_true.1 h with rfl | ⟨e, he, before, -⟩
  · exact fun _ mem => (List.not_mem_nil mem).elim
  · exact fun name mem => tree.names e he name (before.subset mem)

end IsTree

end PatternCheck.Files
