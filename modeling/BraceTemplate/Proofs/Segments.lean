import BraceTemplate.Proofs.Grammar
import BraceTemplate.Template.Dependency
import Mathlib.Data.List.DropRight
import Mathlib.Data.List.TakeWhile

/-!
# Dotted paths without loss

The paths that a template reads are kept in dotted form.  Nothing is lost by that: the segments of a
path are trimmed and hold no dot, so that cutting the dotted form at its dots gives the path back.
`splitPath_dotted` says so for every `Segmented` path, and `Derives.segmented` that all paths of a
parsed template are segmented, variables included, whose names hold no dot because a body with a dot
is an accessor.  So the required names are the first segments of the paths, and no others
(`mem_requiredNames_iff`).
-/

namespace BraceTemplate

/-! ## Trimming -/

namespace Text

lemma trimEnd_initial (cs : List Char) : trimEnd cs <+: cs := List.rdropWhile_prefix isBlank cs

lemma trimStart_trimEnd_of_trimStart {cs : List Char} (h : trimStart cs = cs) :
    trimStart (trimEnd cs) = trimEnd cs := by
  have first := List.dropWhile_eq_self_iff.1 h
  refine List.dropWhile_eq_self_iff.2 fun nonempty => ?_
  have longer : 0 < cs.length := nonempty.trans_le (trimEnd_initial cs).length_le
  have head : (trimEnd cs)[0] = cs[0] := (trimEnd_initial cs).getElem nonempty
  rw [head]
  exact first longer

lemma trimStart_trim (cs : List Char) : trimStart (trim cs) = trim cs :=
  trimStart_trimEnd_of_trimStart (List.dropWhile_idempotent isBlank cs)

/-- Trimming twice is trimming once. -/
lemma trim_trim (cs : List Char) : trim (trim cs) = trim cs := by
  rw [trim, trimStart_trim]
  exact List.rdropWhile_idempotent isBlank (trimStart cs)

/-- Trimming adds no character. -/
lemma mem_of_mem_trim {c : Char} {cs : List Char} (h : c ∈ trim cs) : c ∈ cs :=
  List.dropWhile_subset isBlank ((trimEnd_initial _).subset h)

end Text

/-! ## Cutting at dots -/

lemma splitAt_eq_splitOn (mark : Char) (cs : List Char) : splitAt mark cs = cs.splitOn mark := by
  induction cs with
  | nil => rfl
  | cons c cs ih =>
    rw [splitAt, List.splitOn_cons_eq_if_modifyHead, ih]
    by_cases same : c = mark
    · rw [if_pos same, if_pos (beq_iff_eq.2 same)]
    · rw [if_neg same, if_neg (fun h => same (beq_iff_eq.1 h))]
      cases shape : cs.splitOn mark with
      | nil => exact absurd shape (List.splitOn_ne_nil mark cs)
      | cons first others => rfl

/-- The parts between the marks hold no mark. -/
lemma not_mem_of_mem_splitAt {mark : Char} {cs segment : List Char}
    (h : segment ∈ splitAt mark cs) : mark ∉ segment := by
  induction cs generalizing segment with
  | nil =>
    rw [splitAt, List.mem_singleton] at h
    simp [h]
  | cons c cs ih =>
    rw [splitAt] at h
    split at h
    · rcases h with _ | ⟨_, later⟩
      · simp
      · exact ih later
    · rename_i differ
      split at h
      · rw [List.mem_singleton] at h
        simp [h, Ne.symm differ]
      · rename_i first others shape
        rcases h with _ | ⟨_, later⟩
        · have clean : mark ∉ first := ih (by simp [shape])
          simp [Ne.symm differ, clean]
        · exact ih (by rw [shape]; exact List.mem_cons_of_mem _ later)

/-- A path of segments that a dotted form keeps apart: trimmed, and without dots. -/
structure Segmented (path : List String) : Prop where
  nonempty : path ≠ []
  undotted : ∀ segment ∈ path, '.' ∉ segment.toList
  trimmed : ∀ segment ∈ path, Text.trim segment.toList = segment.toList

lemma splitPath_ne_nil (text : String) : splitPath text ≠ [] := by
  rw [splitPath, splitAt_eq_splitOn, Ne, List.map_eq_nil_iff]
  exact List.splitOn_ne_nil _ _

lemma segmented_splitPath (text : String) : Segmented (splitPath text) where
  nonempty := splitPath_ne_nil text
  undotted := by
    intro segment h dot
    obtain ⟨part, there, rfl⟩ := List.mem_map.1 h
    rw [String.toList_ofList] at dot
    exact not_mem_of_mem_splitAt there (Text.mem_of_mem_trim dot)
  trimmed := by
    intro segment h
    obtain ⟨part, -, rfl⟩ := List.mem_map.1 h
    rw [String.toList_ofList, Text.trim_trim]

/-- A dotted form is cut into the segments that it was made of. -/
lemma splitAt_dotted {path : List String} (h : Segmented path) :
    splitAt '.' (dotted path).toList = path.map String.toList := by
  rw [splitAt_eq_splitOn, dotted, String.toList_intercalate]
  refine List.splitOn_intercalate '.' ?_ (by simpa using h.nonempty)
  intro part there
  obtain ⟨segment, here, rfl⟩ := List.mem_map.1 there
  exact h.undotted segment here

/-- **The dotted form of a path loses nothing.** -/
theorem splitPath_dotted {path : List String} (h : Segmented path) :
    splitPath (dotted path) = path := by
  rw [splitPath, splitAt_dotted h, List.map_map]
  calc path.map ((fun part => String.ofList (Text.trim part)) ∘ String.toList)
      = path.map id := by
        refine List.map_congr_left fun segment here => ?_
        rw [Function.comp_apply, h.trimmed segment here, String.ofList_toList, id]
    _ = path := List.map_id path

/-- What stands before the first mark is the first part. -/
lemma head?_splitAt (mark : Char) (cs : List Char) :
    (splitAt mark cs).head? = some (cs.takeWhile (· ≠ mark)) := by
  induction cs with
  | nil => rfl
  | cons c cs ih =>
    rw [splitAt]
    by_cases same : c = mark
    · simp [same]
    · have others : (c :: cs).takeWhile (· ≠ mark) = c :: cs.takeWhile (· ≠ mark) := by simp [same]
      rw [if_neg same, others]
      cases shape : splitAt mark cs with
      | nil =>
        rw [shape] at ih
        cases ih
      | cons first rest =>
        rw [shape, List.head?_cons, Option.some.injEq] at ih
        rw [ih, List.head?_cons]

/-- The part of a dotted path before its first dot is the first segment. -/
lemma firstSegment_dotted {first : String} {rest : List String} (h : Segmented (first :: rest)) :
    firstSegment (dotted (first :: rest)) = first := by
  have head := head?_splitAt '.' (dotted (first :: rest)).toList
  rw [splitAt_dotted h, List.map_cons, List.head?_cons, Option.some.injEq] at head
  rw [firstSegment, ← head, String.ofList_toList]

/-! ## The paths of a parsed template -/

/-- A body that makes a variable holds no dot. -/
lemma not_mem_of_classify_variable {body : String} (h : classify body = .variable) :
    '.' ∉ body.toList := by
  revert h
  fun_cases classify body with
  | case8 _ _ _ _ _ _ undotted => exact fun _ => undotted
  | _ => rintro ⟨⟩

lemma segmented_outsidePath {bound path other : List String} (h : Segmented path)
    (there : other ∈ outsidePath bound path) : Segmented other := by
  cases path with
  | nil => cases there
  | cons first rest =>
    rw [outsidePath] at there
    split at there
    · cases there
    · rw [List.mem_singleton] at there
      exact there ▸ h

lemma segmented_of_leaf {piece : Piece} {node : Span → Node} (h : piece.role = .leaf node)
    (span : Span) {bound path : List String} (there : path ∈ (node span).outsidePaths bound) :
    Segmented path := by
  cases piece with
  | text content =>
    cases h
    rw [Node.outsidePaths] at there
    cases there
  | unterminated rest => cases h
  | directive inner =>
    simp only [Piece.role] at h
    cases kind : classify (directiveBody inner) <;> rw [kind] at h <;> cases h <;>
      rw [Node.outsidePaths] at there
    · cases there
    · exact segmented_outsidePath (segmented_splitPath _) there
    · refine segmented_outsidePath ⟨List.cons_ne_nil _ _, ?_, ?_⟩ there
      · intro segment here
        rw [List.mem_singleton.1 here]
        exact not_mem_of_classify_variable kind
      · intro segment here
        rw [List.mem_singleton.1 here, directiveBody, String.toList_ofList, Text.trim_trim]

/-- The paths that a parsed template reads are segmented. -/
lemma Derives.segmented {p : Position} {ps : List Piece} {nodes : List Node}
    (h : Derives p ps nodes) {bound path : List String}
    (there : path ∈ outsidePathsAll bound nodes) : Segmented path := by
  induction h generalizing bound with
  | nil p =>
    rw [outsidePathsAll] at there
    cases there
  | leaf isLeaf _ ih =>
    rw [outsidePathsAll, List.mem_append] at there
    obtain here | later := there
    · exact segmented_of_leaf isLeaf _ here
    · exact ih later
  | @block _ _ _ _ _ opening _ _ _ _ _ _ _ _ ihIn ihOut =>
    rw [outsidePathsAll, List.mem_append] at there
    obtain here | later := there
    · cases opening with
      | loop target item | conditional target =>
        rw [Node.ofBlock, Node.outsidePaths, List.mem_append] at here
        obtain own | within := here
        · exact segmented_outsidePath (segmented_splitPath _) own
        · exact ihIn within
    · exact ihOut later

/-- Cutting the dependencies of a parsed template at their dots gives the paths that it reads. -/
lemma mem_outsidePaths_iff {source : String} {d : Document} (accepted : parse source = .ok d)
    {path : List String} :
    path ∈ outsidePathsAll [] d.nodes ↔ ∃ p ∈ d.dependencies, splitPath p = path := by
  have whole := (parse_eq_ok_iff.1 accepted).2
  simp only [Document.dependencies, dependencies, mem_nameSet, List.mem_map]
  constructor
  · intro there
    exact ⟨dotted path, ⟨path, there, rfl⟩, splitPath_dotted (whole.segmented there)⟩
  · rintro ⟨_, ⟨other, there, rfl⟩, same⟩
    rw [splitPath_dotted (whole.segmented there)] at same
    exact same ▸ there

/-- The required names of a parsed template are the first segments of the paths that it reads. -/
lemma mem_requiredNames_iff {source : String} {d : Document} (accepted : parse source = .ok d)
    {name : String} :
    name ∈ d.requiredNames ↔ ∃ rest, name :: rest ∈ outsidePathsAll [] d.nodes := by
  have whole := (parse_eq_ok_iff.1 accepted).2
  simp only [Document.requiredNames, Document.dependencies, dependencies, mem_nameSet, List.mem_map,
    exists_exists_and_eq_and]
  constructor
  · rintro ⟨path, there, rfl⟩
    have parts := whole.segmented there
    cases path with
    | nil => exact absurd rfl parts.nonempty
    | cons first rest =>
      rw [firstSegment_dotted parts]
      exact ⟨rest, there⟩
  · rintro ⟨rest, there⟩
    exact ⟨name :: rest, there, firstSegment_dotted (whole.segmented there)⟩

end BraceTemplate
