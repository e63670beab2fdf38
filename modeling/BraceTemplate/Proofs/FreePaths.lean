import Mathlib
import BraceTemplate.Proofs.RequiredNames
import BraceTemplate.Template.Walker

/-!
# The free paths of a template

A path is free in a node if some directive in the node reads it, and no loop of the node around that
directive binds its first segment.  `Node.freePaths` says so by recursion: what is free in the
children of a loop is free in the loop, but for the paths that start with the loop's name.

A walker does not take paths away.  It knows at each directive which names are bound, and never adds
a path that starts with one of them.  Two steps lead from one to the other:

* a walker adds to its set what nodes read from outside of the loops around them, and leaves its
  stack as it was (`Walker.visitAll_eq`);
* these are the free paths of the nodes that start with no bound name (`outsidePathsAll_eq_filter`).

So every analysis finds the free paths, in dotted form and from whatever state the walker is in.  In
a parsed template nothing is lost by the dotted form (`segmented_of_mem_freePaths`), and the names
required are the first segments of the free paths.  `walker_finds_free_paths` puts this together.
-/

namespace BraceTemplate

/-! ## Sets of names -/

/-- A set is determined by its elements. -/
lemma nameSet_congr {names names' : List String} (same : ∀ t, t ∈ names ↔ t ∈ names') :
    nameSet names = nameSet names' := by
  have distinct : ∀ names, (nameSet names).Nodup := fun names =>
    (pairwise_nameSet names).imp String.ne_of_lt
  have perm : (nameSet names).Perm (nameSet names') := by
    rw [List.perm_ext_iff_of_nodup (distinct names) (distinct names')]
    intro t
    rw [mem_nameSet, mem_nameSet]
    exact same t
  refine perm.eq_of_pairwise ?_ (pairwise_nameSet names) (pairwise_nameSet names')
  intro s t _ _ less more
  exact absurd more (String.lt_asymm less)

/-- Names can be put into a set in any order. -/
lemma foldl_insertName (names : List String) :
    names.foldl (fun found name => insertName name found) [] = nameSet names := by
  rw [← List.foldr_reverse]
  exact nameSet_congr fun t => List.mem_reverse

/-! ## What a walker adds -/

namespace Walker

/-- The walker after names have been added to its set. -/
def collect (w : Walker) (names : List String) : Walker :=
  { w with found := names.foldl (fun found name => insertName name found) w.found }

@[simp] lemma bound_collect (w : Walker) (names : List String) :
    (w.collect names).bound = w.bound := rfl

@[simp] lemma bound_enter (w : Walker) (item : String) :
    (w.enter item).bound = item :: w.bound := rfl

lemma collect_append (w : Walker) (names more : List String) :
    w.collect (names ++ more) = (w.collect names).collect more := by
  rw [collect, List.foldl_append]
  rfl

/-- Leaving a loop undoes entering it, and keeps what was found inside. -/
lemma leave_collect_enter (w : Walker) (item : String) (names : List String) :
    ((w.enter item).collect names).leave = w.collect names := rfl

lemma add_eq (w : Walker) (path : List String) :
    w.add path = w.collect ((outsidePath w.bound path).map dotted) := by
  cases path with
  | nil => rfl
  | cons first rest =>
    rw [add, outsidePath]
    split <;> rfl

/-- One step of a walk, when the walk of the children is known. -/
lemma visit_eq {n : Node}
    (below : ∀ w : Walker, w.visitAll n.children =
      w.collect ((outsidePathsAll w.bound n.children).map dotted)) (w : Walker) :
    w.visit n = w.collect ((n.outsidePaths w.bound).map dotted) := by
  cases n with
  | text span content | comment span content =>
    rw [visit, Node.outsidePaths]
    rfl
  | loop span body target item children =>
    rw [Node.children] at below
    rw [visit, below, leave_collect_enter, Node.outsidePaths, add_eq, bound_enter, bound_collect,
      List.map_append, collect_append]
  | conditional span body target children =>
    rw [Node.children] at below
    rw [visit, below, Node.outsidePaths, add_eq, bound_collect, List.map_append, collect_append]
  | _ => rw [visit, Node.outsidePaths, add_eq]

/-- **A walk adds the dotted forms of what the nodes read from outside**, and changes nothing
else. -/
theorem visitAll_eq (w : Walker) (nodes : List Node) :
    w.visitAll nodes = w.collect ((outsidePathsAll w.bound nodes).map dotted) := by
  induction nodes using forest_induction generalizing w with
  | nil => rw [visitAll, outsidePathsAll]; rfl
  | cons n rest ihBelow ihRest =>
    rw [visitAll, visit_eq ihBelow, ihRest, bound_collect, outsidePathsAll, List.map_append,
      collect_append]

/-- What an analysis finds does not depend on the walker. -/
lemma found_analyze (w : Walker) (nodes : List Node) :
    (w.analyze nodes).found = dependencies nodes := by
  rw [analyze, visitAll_eq, dependencies]
  exact foldl_insertName _

end Walker

/-! ## Free paths -/

mutual
/-- The free paths of a node. -/
def Node.freePaths : Node → List (List String)
  | .text _ _ | .comment _ _ => []
  | .variable _ name => [[name]]
  | .accessor _ body => [splitPath body]
  | .conditional _ _ target children => splitPath target :: freePathsAll children
  | .loop _ _ target item children =>
    splitPath target :: (freePathsAll children).filter fun path => path.head? ≠ some item

/-- The free paths of some nodes. -/
def freePathsAll : List Node → List (List String)
  | [] => []
  | n :: rest => n.freePaths ++ freePathsAll rest
end

/-- Free in a node are its own path and those free in its children, if it does not bind their first
segment. -/
lemma Node.mem_freePaths {n : Node} {path : List String} :
    path ∈ n.freePaths ↔ n.reads = some path ∨
      path ∈ freePathsAll n.children ∧ ∀ name ∈ n.boundWithin [], path.head? ≠ some name := by
  cases n <;> simp [freePaths, reads, children, boundWithin, freePathsAll, @eq_comm _ path]

/-- Whether a path starts with a segment that is not bound. -/
def startsOutside (bound path : List String) : Bool :=
  path.head?.any (· ∉ bound)

lemma outsidePath_eq_filter (bound path : List String) :
    outsidePath bound path = [path].filter (startsOutside bound) := by
  cases path with
  | nil => rfl
  | cons first rest =>
    by_cases inside : first ∈ bound <;> simp [outsidePath, startsOutside, inside]

lemma startsOutside_nil {path : List String} (full : path ≠ []) : startsOutside [] path = true := by
  obtain ⟨first, rest, rfl⟩ := List.exists_cons_of_ne_nil full
  rfl

/-- Outside of a loop is what is outside of the loops around it and does not start with its name. -/
lemma startsOutside_cons (item : String) (bound path : List String) :
    startsOutside (item :: bound) path =
      (startsOutside bound path && decide (path.head? ≠ some item)) := by
  cases path with
  | nil => rfl
  | cons first rest => simp [startsOutside, Bool.and_comm]

/-- **What is read from outside are the free paths that start with no bound name.** -/
theorem outsidePathsAll_eq_filter (bound : List String) (nodes : List Node) :
    outsidePathsAll bound nodes = (freePathsAll nodes).filter (startsOutside bound) := by
  induction nodes using forest_induction generalizing bound with
  | nil => rw [outsidePathsAll, freePathsAll, List.filter_nil]
  | cons n rest ihBelow ihRest =>
    have here : n.outsidePaths bound = n.freePaths.filter (startsOutside bound) := by
      cases n with
      | text span content | comment span content =>
        rw [Node.outsidePaths, Node.freePaths, List.filter_nil]
      | conditional span body target children =>
        rw [Node.children] at ihBelow
        rw [Node.outsidePaths, Node.freePaths, outsidePath_eq_filter, ihBelow,
          ← List.filter_append, List.singleton_append]
      | loop span body target item children =>
        rw [Node.children] at ihBelow
        -- the name is subtracted before the names bound around the loop are
        have within : outsidePathsAll (item :: bound) children =
            ((freePathsAll children).filter fun path => path.head? ≠ some item).filter
              (startsOutside bound) := by
          rw [ihBelow, List.filter_filter]
          exact List.filter_congr fun path _ => startsOutside_cons item bound path
        rw [Node.outsidePaths, Node.freePaths, outsidePath_eq_filter, within,
          ← List.filter_append, List.singleton_append]
      | _ => rw [Node.outsidePaths, Node.freePaths, outsidePath_eq_filter]
    rw [outsidePathsAll, freePathsAll, List.filter_append, here, ihRest]

/-- Every free path is read by some directive. -/
lemma exists_reads_of_mem_freePathsAll {nodes : List Node} {path : List String}
    (free : path ∈ freePathsAll nodes) : ∃ n ∈ Node.visit nodes, n.reads = some path := by
  induction nodes using forest_induction with
  | nil =>
    rw [freePathsAll] at free
    cases free
  | cons n rest ihBelow ihRest =>
    simp only [mem_visit_cons]
    rw [freePathsAll, List.mem_append, Node.mem_freePaths] at free
    obtain (own | ⟨below, -⟩) | later := free
    · exact ⟨n, .inl rfl, own⟩
    · obtain ⟨m, visited, reads⟩ := ihBelow below
      exact ⟨m, .inr (.inl visited), reads⟩
    · obtain ⟨m, visited, reads⟩ := ihRest later
      exact ⟨m, .inr (.inr visited), reads⟩

/-- No directive reads an empty path. -/
lemma Node.reads_ne_nil {n : Node} {path : List String} (reads : n.reads = some path) :
    path ≠ [] := by
  cases n with
  | text span content | comment span content => cases reads
  | accessor span body | loop span body target | conditional span body target =>
    cases reads
    exact splitPath_ne_nil _
  | _ =>
    cases reads
    exact List.cons_ne_nil _ _

/-- Where no names are bound, all free paths are read from outside. -/
lemma outsidePathsAll_nil (nodes : List Node) : outsidePathsAll [] nodes = freePathsAll nodes := by
  rw [outsidePathsAll_eq_filter, List.filter_eq_self]
  intro path free
  obtain ⟨n, -, reads⟩ := exists_reads_of_mem_freePathsAll free
  exact startsOutside_nil (Node.reads_ne_nil reads)

/-! ## Free paths of a parsed template -/

/-- The path that a directive reads is segmented. -/
lemma Piece.Makes.segmented {piece : Piece} {n : Node} (makes : piece.Makes n)
    {path : List String} (reads : n.reads = some path) : Segmented path := by
  cases makes with
  | @leaf node span isLeaf =>
    have own : path ∈ outsidePath [] path := by
      rw [outsidePath_eq_filter, List.mem_filter]
      exact ⟨List.mem_singleton_self path, startsOutside_nil (Node.reads_ne_nil reads)⟩
    exact segmented_of_leaf isLeaf span (Node.mem_outsidePaths.2 (.inl ⟨path, reads, own⟩))
  | @block body opening span children opens =>
    cases opening <;> cases reads <;> exact segmented_splitPath _

/-- The free paths of the nodes of a parsed template are segmented. -/
lemma segmented_of_mem_freePaths {source : String} {d : Document}
    (accepted : parse source = .ok d) {n : Node} (visited : n ∈ d.inOrder) {path : List String}
    (free : path ∈ n.freePaths) : Segmented path := by
  have reader : ∃ m ∈ d.inOrder, m.reads = some path := by
    rw [Node.mem_freePaths] at free
    rcases free with own | ⟨below, -⟩
    · exact ⟨n, visited, own⟩
    · obtain ⟨m, inside, reads⟩ := exists_reads_of_mem_freePathsAll below
      exact ⟨m, mem_visit_of_below visited inside, reads⟩
  obtain ⟨m, there, reads⟩ := reader
  obtain ⟨before, piece, after, -, -, makes⟩ :=
    (parse_eq_ok_iff.1 accepted).2.exists_piece there
  exact makes.segmented reads

/-- Cutting the dotted form of a segmented path at its dots gives the path back. -/
lemma map_splitAt_dotted {path : List String} (h : Segmented path) :
    (splitAt '.' (dotted path).toList).map String.ofList = path := by
  rw [splitAt_dotted h, List.map_map]
  simp

/-- **A walker finds the free paths, and nothing is lost by their dotted forms.** Whatever it was
used for before, a walker that analyses a parsed template or a node of it collects the dotted forms
of the paths that are free there.  Cutting such a form at its dots gives the path back, so that
distinct paths have distinct dotted forms; and the names that the template requires are the first
segments of its free paths. -/
theorem walker_finds_free_paths {source : String} {d : Document} (accepted : parse source = .ok d) :
    (∀ w : Walker, (w.analyze d.nodes).found = nameSet ((freePathsAll d.nodes).map dotted)) ∧
      (∀ n ∈ d.inOrder, ∀ w : Walker,
        (w.analyze [n]).found = nameSet (n.freePaths.map dotted)) ∧
      (∀ n ∈ d.inOrder, ∀ path ∈ n.freePaths,
        (splitAt '.' (dotted path).toList).map String.ofList = path) ∧
      Set.InjOn dotted {path | ∃ n ∈ d.inOrder, path ∈ n.freePaths} ∧
      ∀ name, name ∈ d.requiredNames ↔ ∃ path ∈ freePathsAll d.nodes, path.head? = some name := by
  have back : ∀ n ∈ d.inOrder, ∀ path ∈ n.freePaths,
      (splitAt '.' (dotted path).toList).map String.ofList = path :=
    fun n visited path free => map_splitAt_dotted (segmented_of_mem_freePaths accepted visited free)
  refine ⟨?_, ?_, back, ?_, ?_⟩
  · intro w
    rw [Walker.found_analyze, dependencies, outsidePathsAll_nil]
  · intro n _ w
    rw [Walker.found_analyze, dependencies, outsidePathsAll_nil, freePathsAll, freePathsAll,
      List.append_nil]
  · rintro path ⟨m, here, free⟩ other ⟨n, there, free'⟩ same
    rw [← back m here path free, same, back n there other free']
  · intro name
    rw [mem_requiredNames_iff accepted, outsidePathsAll_nil]
    constructor
    · rintro ⟨rest, free⟩
      exact ⟨name :: rest, free, rfl⟩
    · rintro ⟨path, free, first⟩
      obtain ⟨rest, rfl⟩ := List.head?_eq_some_iff.1 first
      exact ⟨rest, free⟩

/-- A name that a loop binds is free behind the loop. -/
theorem free_behind_loop :
    ∃ d, parse ("\x7b\x7b#loop xs as x\x7d\x7d\x7b\x7bx.a\x7d\x7d\x7b\x7b/loop\x7d\x7d" ++
        "\x7b\x7bx.b\x7d\x7d") = .ok d ∧
      (∀ w : Walker, (w.analyze d.nodes).found = ["x.b", "xs"]) ∧ "x" ∈ d.requiredNames := by
  let loop : Node :=
    .loop ⟨⟨0, 1, 0⟩, 33⟩ "#loop xs as x" "xs" "x" [.accessor ⟨⟨17, 1, 17⟩, 24⟩ "x.a"]
  let d : Document := ⟨40, [loop, .accessor ⟨⟨33, 1, 33⟩, 40⟩ "x.b"]⟩
  have parsed : parse ("\x7b\x7b#loop xs as x\x7d\x7d\x7b\x7bx.a\x7d\x7d\x7b\x7b/loop\x7d\x7d" ++
    "\x7b\x7bx.b\x7d\x7d") = .ok d := by cbv
  have free : freePathsAll d.nodes = [["xs"], ["x", "b"]] := by decide
  obtain ⟨finds, -, -, -, requires⟩ := walker_finds_free_paths parsed
  refine ⟨d, parsed, ?_, (requires "x").2 ⟨["x", "b"], by rw [free]; decide, rfl⟩⟩
  intro w
  rw [finds w, free]
  decide

end BraceTemplate
