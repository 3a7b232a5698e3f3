import Mathlib.Data.List.TakeWhile
import PatternCheck.Proofs.Files
import PatternCheck.Proofs.Http.Percent

/-
What the path of a request leads to. Only what is below a directory can be
reached: a path that goes upwards or begins anew leads nowhere
(`assetPath?_upwards`, `assetPath?_rooted`), and everything else is looked up
by its names. In return everything there can be reached, for the names of a
path can be written (`assetPath?_written`).
-/

namespace PatternCheck.Http

open Files (IsName joined namesOn)
open Text.Utf8 (encode decode?)

variable {cs out : List Char} {names : List String} {path : String}

-- =============================================================== reading

/-- A path with its escapes read, if that gives a text. -/
def readPath? (cs : List Char) : Option (List Char) :=
  (decode? (percentDecoded (encode cs))).toOption

theorem readPath?_slash (cs : List Char) :
    readPath? ('/' :: cs) = (readPath? cs).map ('/' :: ·) := by
  rw [readPath?, Text.Utf8.encode_cons_ascii (by decide),
    percentDecoded_cons (by decide), Text.Utf8.decode?_ascii (by decide)]
  rfl

/-- Slashes at the beginning are read as slashes. -/
theorem readPath?_slashes (cs : List Char) :
    readPath? cs = (readPath? (cs.dropWhile (· = '/'))).map
      (cs.takeWhile (· = '/') ++ ·) := by
  induction cs with
  | nil => rfl
  | cons c cs ih =>
    by_cases slash : c = '/'
    · rw [slash, List.dropWhile_cons_of_pos (by decide),
        List.takeWhile_cons_of_pos (by decide), readPath?_slash, ih,
        Option.map_map]
      rfl
    · rw [List.dropWhile_cons_of_neg (by simpa using slash),
        List.takeWhile_cons_of_neg (by simpa using slash)]
      exact Option.map_id'.symm

theorem namesOnPath?_eq (cs : List Char) :
    namesOnPath? cs
      = if cs.head? = some '/' ∨ ".." ∈ Files.split (String.ofList cs) then
          none
        else some (namesOn cs) := by
  have up : ".." ∈ namesOn cs ↔ ".." ∈ Files.split (String.ofList cs) := by
    rw [namesOn, List.mem_filter]
    exact and_iff_left (by decide)
  rw [namesOnPath?, ← namesOn]
  by_cases root : cs.head? = some '/'
  · rw [if_pos root, if_pos (.inl root)]
  · by_cases parent : ".." ∈ namesOn cs
    · rw [if_neg root, if_pos parent, if_pos (.inr (up.1 parent))]
    · rw [if_neg root, if_neg parent, if_neg (not_or.2 ⟨root, mt up.2 parent⟩)]

/-- Slashes at the beginning are passed over before escapes are read. -/
theorem assetPath?_eq (path : String) :
    assetPath? path = (readPath? (path.toList.dropWhile (· = '/'))).bind
      namesOnPath? := by
  unfold assetPath? readPath?
  cases decode? (percentDecoded (encode (path.toList.dropWhile (· = '/'))))
    <;> rfl

theorem mem_takeWhile_slash {c : Char} (h : c ∈ cs.takeWhile (· = '/')) :
    c = '/' := by
  have slash := List.mem_takeWhile_imp h
  exact of_decide_eq_true slash

/-- Whatever is looked up has the names that are on the whole path. -/
theorem readPath?_of_names (h : assetPath? path = some names) :
    ∃ cs, readPath? path.toList = some cs ∧ names = namesOn cs := by
  rw [assetPath?_eq] at h
  obtain ⟨rest, read, found⟩ := Option.bind_eq_some_iff.1 h
  rw [namesOnPath?_eq] at found
  split at found
  · cases found
  · cases found
    refine ⟨_, by rw [readPath?_slashes, read]; rfl, ?_⟩
    exact (Files.namesOn_slashes (fun c => mem_takeWhile_slash) rest).1.symm

/-- A path that goes upwards leads nowhere. -/
theorem assetPath?_upwards (read : readPath? path.toList = some cs)
    (up : ".." ∈ Files.split (String.ofList cs)) : assetPath? path = none := by
  rw [readPath?_slashes] at read
  obtain ⟨rest, after, rfl⟩ := Option.map_eq_some_iff.1 read
  have up := (Files.namesOn_slashes (fun c => mem_takeWhile_slash) rest).2.1 up
  rw [assetPath?_eq, after, Option.bind_some, namesOnPath?_eq,
    if_pos (.inr up)]

/-- A path that begins anew after its slashes leads nowhere. -/
theorem assetPath?_rooted
    (read : readPath? (path.toList.dropWhile (· = '/')) = some ('/' :: cs)) :
    assetPath? path = none := by
  rw [assetPath?_eq, read, Option.bind_some, namesOnPath?_eq,
    if_pos (.inl rfl)]

/-- A path that is no text leads nowhere. -/
theorem assetPath?_unread (unread : readPath? path.toList = none) :
    assetPath? path = none := by
  rw [readPath?_slashes, Option.map_eq_none_iff] at unread
  rw [assetPath?_eq, unread, Option.bind_none]

-- =============================================================== writing

/-- Ways to write names as a path. -/
inductive WrittenPath : List String → List Char → Prop where
  | nil : WrittenPath [] []
  | cons {name : String} {names : List String} {out rest : List Char} :
    Written name.toList out → WrittenPath names rest →
    WrittenPath (name :: names) ('/' :: (out ++ rest))

/-- There is always one. -/
theorem writtenPath_percentEncoded (names : List String) :
    WrittenPath names (names.flatMap fun name =>
      '/' :: percentEncoded name.toList) := by
  induction names with
  | nil => exact .nil
  | cons name names ih => exact .cons (written_percentEncoded name.toList) ih

namespace WrittenPath

theorem percentDecoded_eq (h : WrittenPath names cs) :
    percentDecoded (encode cs) = encode (joined names) := by
  induction h with
  | nil => rfl
  | cons written _ ih =>
    rw [Text.Utf8.encode_cons_ascii (by decide),
      percentDecoded_cons (by decide), Text.Utf8.encode_append,
      percentDecoded_written written, ih, Files.joined_cons,
      Text.Utf8.encode_cons_ascii (by decide), Text.Utf8.encode_append]

theorem readPath?_eq (h : WrittenPath names cs) :
    readPath? cs = some (joined names) := by
  rw [readPath?, h.percentDecoded_eq, Text.Utf8.decode?_encode]
  rfl

/-- What is written neither ends the path nor begins what comes after it. -/
theorem plain (h : WrittenPath names cs) : '?' ∉ cs ∧ '#' ∉ cs := by
  induction h with
  | nil => exact ⟨List.not_mem_nil, List.not_mem_nil⟩
  | cons written _ ih =>
    have apart {c : Char} (hc : c ∈ reserved) (slash : c ≠ '/')
      (percent : c ≠ '%') {out rest : List Char}
      (written : ∀ c ∈ out, c = '%' ∨ c ∉ reserved) (ih : c ∉ rest) :
        c ∉ '/' :: (out ++ rest) := by
      rw [List.mem_cons, List.mem_append, not_or, not_or]
      refine ⟨slash, fun mem => ?_, ih⟩
      exact (written c mem).elim percent (absurd hc)
    exact ⟨apart (by decide) (by decide) (by decide) written.plain ih.1,
      apart (by decide) (by decide) (by decide) written.plain ih.2⟩

/-- No slash comes after the last name. -/
theorem getLast?_ne (h : WrittenPath names cs)
    (full : ∀ name ∈ names, name ≠ "") : cs.getLast? ≠ some '/' := by
  induction h with
  | nil => exact fun h => nomatch h
  | @cons name names out rest written _ ih =>
    have out_ne : out ≠ [] := written.ne_nil fun empty =>
      full name (List.mem_cons_self ..) (String.toList_eq_nil_iff.1 empty)
    have other := ih fun name mem => full name (List.mem_cons_of_mem _ mem)
    rw [List.getLast?_cons_of_ne_nil
      (List.append_ne_nil_of_left_ne_nil out_ne rest), List.getLast?_append]
    cases last : rest.getLast? with
    | some c =>
      rw [last] at other
      exact other
    | none =>
      rw [Option.none_or]
      exact fun slash => written.not_slash (List.mem_of_getLast? slash)

/-- What follows the first slash is read as names. -/
theorem readPath?_dropWhile {name : String}
    (h : WrittenPath (name :: names) cs) (ordinary : IsName name) :
    readPath? (cs.dropWhile (· = '/'))
      = some (name.toList ++ joined names) := by
  have read := h.readPath?_eq
  cases h with
  | @cons _ _ out rest written more =>
    have out_ne := written.ne_nil ordinary.toList_ne_nil
    have bare : (out ++ rest).dropWhile (· = '/') = out ++ rest := by
      cases out with
      | nil => exact absurd rfl out_ne
      | cons c out =>
        refine List.dropWhile_cons_of_neg fun slash => ?_
        exact written.not_slash
          (of_decide_eq_true slash ▸ List.mem_cons_self ..)
    rw [readPath?_slash, Files.joined_cons] at read
    obtain ⟨tail, found, same⟩ := Option.map_eq_some_iff.1 read
    rw [List.dropWhile_cons_of_pos (by decide), bare, found,
      (List.cons.inj same).2]

/-- Names that are written are what is looked up. -/
theorem assetPath?_eq (h : WrittenPath names path.toList) (below : names ≠ [])
    (ordinary : ∀ name ∈ names, IsName name) :
    assetPath? path = some names := by
  obtain ⟨same, up⟩ := Files.namesOn_joined ordinary
  cases names with
  | nil => exact absurd rfl below
  | cons name names =>
    have first := ordinary name (List.mem_cons_self ..)
    have slash : ∀ c ∈ ['/'], c = '/' := fun _ => List.mem_singleton.1
    obtain ⟨same', up'⟩ :=
      Files.namesOn_slashes slash (name.toList ++ joined names)
    have apart : ¬ ((name.toList ++ joined names).head? = some '/'
        ∨ ".." ∈ Files.split (String.ofList (name.toList ++ joined names))) :=
      not_or.2 ⟨first.head?_ne_slash _, fun mem => up (up'.2 mem)⟩
    rw [Http.assetPath?_eq, h.readPath?_dropWhile first, Option.bind_some,
      namesOnPath?_eq, if_neg apart, ← same']
    exact congrArg some same

/-- A text that names are written in is the path of a target, and nothing
else. -/
theorem target_eq (h : WrittenPath names path.toList) (below : names ≠ []) :
    Target.ofText path = { path } := by
  obtain ⟨question, number⟩ := h.plain
  have head : path.toList.head? = some '/' := by
    generalize path.toList = cs at h
    cases h with
    | nil => exact absurd rfl below
    | cons => rfl
  have whole : path.toList.takeWhile (· ≠ '#') = path.toList :=
    List.takeWhile_eq_self_iff.2 fun c hc => decide_eq_true fun same =>
      number (same ▸ hc)
  have whole' : path.toList.takeWhile (· ≠ '?') = path.toList :=
    List.takeWhile_eq_self_iff.2 fun c hc => decide_eq_true fun same =>
      question (same ▸ hc)
  have origin : Target.splitOrigin path.toList = ([], path.toList) := by
    rw [Target.splitOrigin, if_pos]
    rw [head]
    rfl
  rw [Target.ofText, whole, origin]
  dsimp only
  rw [whole', List.drop_length, String.ofList_toList]

end WrittenPath

-- =============================================================== look-up

variable {fs : Files} {f : File} {r : Request}

/-- A request that wants a file as it is: all of it, and whenever it was
changed. -/
structure Request.Unconditional (r : Request) : Prop where
  range : r.headers.get? "range" = none
  modified : r.headers.get? "if-modified-since" = none
  unmodified : r.headers.get? "if-unmodified-since" = none

/-- Such a request is answered with the file. -/
theorem fileAnswer_whole (h : r.Unconditional) (f : File) (name : String) :
    (fileAnswer f name r.headers).status = 200
      ∧ (fileAnswer f name r.headers).body = f.content := by
  have current : conditional? f r.headers = none := by
    simp only [conditional?, h.unmodified, h.modified]
    rfl
  rw [fileAnswer, current, Headers.visible?, h.range]
  exact ⟨rfl, rfl⟩

/-- A file is found in its own place, or in a directory for which it
stands. -/
def FoundAt (fs : Files) (names : List String) (f : File) : Prop :=
  (names, f) ∈ fs.entries
    ∨ fs.isDirectory names = true ∧ (names ++ ["index.html"], f) ∈ fs.entries

namespace Asset

theorem foundAt_of_ofPath {slashAfter : Bool} {name : String}
    (h : ofPath fs names slashAfter = .file name f) : FoundAt fs names f := by
  unfold ofPath at h
  split at h
  · next directory =>
    split at h
    · split at h
      · next found =>
        cases h
        exact .inr ⟨directory, Files.mem_of_file? found⟩
      · cases h
    · cases h
  · split at h
    · next found =>
      cases h
      exact .inl (Files.mem_of_file? found)
    · cases h

theorem ofTarget_missing {t : Target} (h : assetPath? t.path = none)
    (root : Option Files) : ofTarget root t = .missing := by
  unfold ofTarget
  rw [h]
  cases root <;> rfl

theorem ofTarget_found {t : Target} (h : assetPath? t.path = some names)
    (fs : Files) :
    ofTarget (some fs) t = ofPath fs names (t.path.endsWith "/") := by
  unfold ofTarget
  rw [h]

/-- Whatever has content is a file in the place that the path names. -/
theorem foundAt_of_status (h : r.Unconditional)
    (ok : ((ofTarget (some fs) r.target).answer r).status = 200) :
    ∃ cs f, readPath? r.target.path.toList = some cs
      ∧ FoundAt fs (namesOn cs) f
      ∧ ((ofTarget (some fs) r.target).answer r).body = f.content := by
  cases found : ofTarget (some fs) r.target with
  | missing =>
    rw [found] at ok
    cases ok
  | directory =>
    rw [found] at ok
    cases ok
  | file name f =>
    cases path : assetPath? r.target.path with
    | none =>
      rw [ofTarget_missing path] at found
      cases found
    | some names =>
      obtain ⟨cs, read, rfl⟩ := readPath?_of_names path
      rw [ofTarget_found path] at found
      exact ⟨cs, f, read, foundAt_of_ofPath found,
        (fileAnswer_whole h f name).2⟩

/-- Each file of a tree can be had. -/
theorem answer_file (tree : fs.IsTree) (mem : (names, f) ∈ fs.entries)
    (written : WrittenPath names r.target.path.toList) (h : r.Unconditional) :
    ((ofTarget (some fs) r.target).answer r).status = 200
      ∧ ((ofTarget (some fs) r.target).answer r).body = f.content := by
  have path := written.assetPath?_eq (tree.below _ mem) (tree.names _ mem)
  have found :
      ofTarget (some fs) r.target = .file (names.getLast?.getD "") f := by
    rw [ofTarget_found path, ofPath, tree.not_isDirectory mem,
      if_neg (by decide), tree.file?_of_mem mem]
  rw [found]
  exact fileAnswer_whole h f _

theorem endsWith_slash {path : String} (h : path.toList.getLast? ≠ some '/') :
    path.endsWith "/" = false := by
  rw [← Bool.not_eq_true, String.endsWith_eq_endsWith_toSlice,
    String.Slice.endsWith_string_iff]
  rintro ⟨before, same⟩
  rw [String.copy_toSlice] at same
  rw [← same] at h
  exact h (List.getLast?_append ..)

/-- For each directory there is a request to ask with a slash. -/
theorem answer_directory (tree : fs.IsTree)
    (directory : fs.isDirectory names = true) (below : names ≠ [])
    (written : WrittenPath names r.target.path.toList) :
    (ofTarget (some fs) r.target).answer r
      = { status := 307, headers :=
                           [("location", r.target.withSlash.render)] } := by
  have ordinary := tree.names_of_isDirectory directory
  have path := written.assetPath?_eq below ordinary
  have last := written.getLast?_ne fun name mem => (ordinary name mem).some
  have found : ofTarget (some fs) r.target = .directory := by
    rw [ofTarget_found path, ofPath, directory, if_pos rfl,
      endsWith_slash last, if_neg (by decide)]
  rw [found]
  rfl

end Asset

end PatternCheck.Http
