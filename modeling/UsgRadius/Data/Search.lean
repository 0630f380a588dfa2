import UsgRadius.Data.Results
import Mathlib.Data.List.Chain
import Mathlib.Data.List.Nodup

namespace UsgRadius.Data

/-! Exhaustive search with a stack and a budget, and the walks of a graph that
such a search finds when every node it looks at is a walk. -/

namespace Search

variable {Node Result Memo Failure : Type}

inductive Look (Node Result : Type) where
  | done (result : Option Result)
  | more (next : List Node)

inductive Yields (look : Node → Look Node Result) : Node → Result → Prop
  | done {node : Node} {result : Result} (found : look node = .done (some result)) : Yields look node result
  | more {node child : Node} {next : List Node} {result : Result} (goes : look node = .more next)
      (member : child ∈ next) (later : Yields look child result) : Yields look node result

section Explore

variable [DecidableEq Result] (expand : Memo → Node → Except Failure (Look Node Result × Memo))
  (exhausted overfull : Failure) (capacity : Nat)

/-- Look at the top of the stack until it is empty, at `budget` nodes at most and
for at most `capacity` different results. -/
def explore : Nat → Memo → List Node → List Result → Except Failure (List Result)
  | _, _, [], results => .ok results
  | 0, _, _ :: _, _ => .error exhausted
  | budget + 1, memo, node :: stack, results =>
    match expand memo node with
    | .error reason => .error reason
    | .ok (.more next, memo) => explore budget memo (next.reverse ++ stack) results
    | .ok (.done none, memo) => explore budget memo stack results
    | .ok (.done (some result), memo) =>
      if result ∈ results then explore budget memo stack results
      else if results.length + 1 > capacity then .error overfull
      else explore budget memo stack (results ++ [result])

variable {expand exhausted overfull capacity} {look : Node → Look Node Result} {Good : Memo → Prop}

theorem mem_explore (faithful : ∀ memo node shown after, Good memo → expand memo node = .ok (shown, after) →
      shown = look node ∧ Good after) {budget : Nat} {memo : Memo} {stack : List Node} {results found : List Result}
    (good : Good memo) (explored : explore expand exhausted overfull capacity budget memo stack results = .ok found)
    (result : Result) : result ∈ found ↔ result ∈ results ∨ ∃ node ∈ stack, Yields look node result := by
  induction budget generalizing memo stack results with
  | zero =>
    cases stack with
    | nil =>
      cases explored
      simp
    | cons node stack => cases explored
  | succ budget ih =>
    cases stack with
    | nil =>
      cases explored
      simp
    | cons node stack =>
      simp only [explore] at explored
      split at explored
      · cases explored
      · rename_i next after expanded
        obtain ⟨shown, good⟩ := faithful _ _ _ _ good expanded
        rw [ih good explored]
        apply or_congr_right
        have head : Yields look node result ↔ ∃ child ∈ next, Yields look child result := by
          refine ⟨?_, fun ⟨child, member, later⟩ => .more shown.symm member later⟩
          intro yields
          cases yields with
          | done ends => simp [ends] at shown
          | more goes member later =>
            cases goes.symm.trans shown.symm
            exact ⟨_, member, later⟩
        simp only [List.mem_append, List.mem_reverse, List.mem_cons, or_and_right, exists_or, exists_eq_left, head]
      · rename_i after expanded
        obtain ⟨shown, good⟩ := faithful _ _ _ _ good expanded
        rw [ih good explored]
        have nothing : ¬ Yields look node result := by
          intro yields
          cases yields with
          | done ends => simp [ends] at shown
          | more goes _ _ => simp [goes] at shown
        simp only [List.mem_cons, or_and_right, exists_or, exists_eq_left, nothing, false_or]
      · rename_i own after expanded
        obtain ⟨shown, good⟩ := faithful _ _ _ _ good expanded
        have head : Yields look node result ↔ result = own := by
          refine ⟨?_, fun same => .done (same ▸ shown.symm)⟩
          intro yields
          cases yields with
          | done ends =>
            cases ends.symm.trans shown.symm
            rfl
          | more goes _ _ => simp [goes] at shown
        simp only [List.mem_cons, or_and_right, exists_or, exists_eq_left, head]
        split at explored
        · grind
        · grind

end Explore

end Search

/-- A place to start from, steps, the nodes that may come after the first, and
the nodes where a walk has to stop. -/
structure Graph (Node : Type) where
  start : Node
  step : Node → Node → Prop
  inner : Node → Prop
  closed : Node → Prop
  limit : Nat

structure Trail (Node : Type) where
  front : List Node
  current : Node
deriving DecidableEq

def Trail.path {Node : Type} (trail : Trail Node) : List Node :=
  trail.front ++ [trail.current]

def Trail.extend {Node : Type} (trail : Trail Node) (next : Node) : Trail Node :=
  ⟨trail.path, next⟩

namespace Graph

variable {Node Result : Type} {graph : Graph Node} {front path rest : List Node} {current next : Node}

structure Walk (graph : Graph Node) (path : List Node) : Prop where
  starts : path.head? = some graph.start
  distinct : path.Nodup
  linked : path.IsChain graph.step
  later : ∀ node ∈ path.tail, graph.inner node
  short : path.length ≤ graph.limit
  through : ∀ node ∈ path.dropLast, ¬ graph.closed node

/-- A walk that ends where it has to stop, is as long as it may be, or cannot go on. -/
structure Maximal (graph : Graph Node) (path : List Node) : Prop where
  walk : graph.Walk path
  ends : ∀ last ∈ path.getLast?, graph.closed last ∨ path.length = graph.limit ∨
    ∀ next, graph.inner next → graph.step last next → next ∈ path

structure Goes (graph : Graph Node) (path : List Node) (current next : Node) : Prop where
  beyond : ¬ graph.closed current
  room : path.length < graph.limit
  inner : graph.inner next
  step : graph.step current next
  fresh : next ∉ path

theorem walk_singleton : graph.Walk [current] ↔ current = graph.start ∧ 0 < graph.limit := by
  refine ⟨fun walk => ⟨Option.some.inj walk.starts, walk.short⟩, ?_⟩
  intro ⟨same, room⟩
  exact ⟨congrArg some same, List.nodup_singleton _, .singleton _, by simp, room, by simp⟩

theorem not_walk_nil : ¬ graph.Walk [] :=
  fun walk => nomatch walk.starts

theorem Walk.start_mem (walk : graph.Walk path) : graph.start ∈ path :=
  List.mem_of_head? walk.starts

theorem Walk.left (walk : graph.Walk (front ++ [current] ++ rest)) : graph.Walk (front ++ [current]) := by
  have present : front ++ [current] ≠ [] := by simp
  refine ⟨?_, walk.distinct.of_append_left, walk.linked.left_of_append, ?_, ?_, ?_⟩
  · have starts := walk.starts
    rwa [List.head?_append_of_ne_nil _ present] at starts
  · intro node member
    apply walk.later
    rw [List.tail_append_of_ne_nil present]
    exact List.mem_append_left _ member
  · exact Nat.le_trans (by simp) walk.short
  · intro node member
    apply walk.through
    cases rest with
    | nil => simpa using member
    | cons next rest =>
      grind

theorem walk_snoc : graph.Walk (front ++ [current] ++ [next]) ↔
    graph.Walk (front ++ [current]) ∧ graph.Goes (front ++ [current]) current next := by
  have present : front ++ [current] ≠ [] := by simp
  refine ⟨?_, ?_⟩
  · intro walk
    have fresh : next ∉ front ++ [current] := fun member =>
      (List.nodup_append'.mp walk.distinct).2.2 member (List.mem_singleton_self next)
    have linked := (List.isChain_append.mp walk.linked).2.2 current (by simp) next (by simp)
    refine ⟨walk.left, ⟨walk.through current (by simp), ?_, walk.later next ?_, linked, fresh⟩⟩
    · have short := walk.short
      simp only [List.length_append, List.length_singleton] at short ⊢
      omega
    · grind
  · intro ⟨walk, goes⟩
    refine ⟨?_, ?_, ?_, ?_, ?_, ?_⟩
    · rw [List.head?_append_of_ne_nil _ present]
      exact walk.starts
    · apply List.nodup_append'.mpr ⟨walk.distinct, List.nodup_singleton _, ?_⟩
      intro node member same
      exact goes.fresh (List.mem_singleton.mp same ▸ member)
    · apply walk.linked.append (.singleton _)
      intro last isLast first isFirst
      simp only [List.getLast?_append, List.getLast?_singleton, Option.some_or, Option.mem_def, Option.some.injEq] at isLast
      simp only [List.head?_cons, Option.mem_def, Option.some.injEq] at isFirst
      exact isLast ▸ isFirst ▸ goes.step
    · intro node member
      rw [List.tail_append_of_ne_nil present] at member
      rcases List.mem_append.mp member with old | new
      · exact walk.later node old
      · exact List.mem_singleton.mp new ▸ goes.inner
    · have room := goes.room
      simp only [List.length_append, List.length_singleton] at room ⊢
      omega
    · intro node member
      rw [List.dropLast_concat] at member
      rcases List.mem_append.mp member with old | new
      · exact walk.through node (by simpa using old)
      · exact List.mem_singleton.mp new ▸ goes.beyond

theorem maximal_iff : graph.Maximal (front ++ [current]) ↔
    graph.Walk (front ++ [current]) ∧ ∀ next, ¬ graph.Goes (front ++ [current]) current next := by
  refine ⟨?_, ?_⟩
  · intro maximal
    refine ⟨maximal.walk, fun next goes => ?_⟩
    rcases maximal.ends current (by simp) with closed | full | stuck
    · exact goes.beyond closed
    · exact absurd full (Nat.ne_of_lt goes.room)
    · exact goes.fresh (stuck next goes.inner goes.step)
  · intro ⟨walk, stays⟩
    refine ⟨walk, fun last isLast => ?_⟩
    simp only [List.getLast?_append, List.getLast?_singleton, Option.some_or, Option.mem_def, Option.some.injEq] at isLast
    subst isLast
    by_contra goesOn
    simp only [not_or, not_forall] at goesOn
    obtain ⟨beyond, shorter, next, inner, step, fresh⟩ := goesOn
    exact stays next ⟨beyond, Nat.lt_of_le_of_ne walk.short shorter, inner, step, fresh⟩

/-! ### Searching for the maximal walks -/

open Search

section Looking

variable {Index : Type} {name : Index → Node} {look : Trail Index → Look (Trail Index) Result}
  {outcome : List Index → Option Result} {trail : Trail Index} {index first : Index} {result : Result}

/-- The nodes have names, and a look at the names of a walk shows what comes of it
if it is maximal, and else all the ways on. -/
structure Looks (graph : Graph Node) (name : Index → Node) (look : Trail Index → Look (Trail Index) Result)
    (outcome : List Index → Option Result) : Prop where
  injective : Function.Injective name
  stops : ∀ trail, graph.Maximal (trail.path.map name) → look trail = .done (outcome trail.path)
  goes : ∀ trail, graph.Walk (trail.path.map name) → ¬ graph.Maximal (trail.path.map name) →
    ∃ nodes : List Index, look trail = .more (nodes.map trail.extend) ∧
      ∀ node, graph.Goes (trail.path.map name) (name trail.current) node ↔ ∃ next ∈ nodes, name next = node

theorem walk_extend : graph.Walk ((trail.extend index).path.map name) ↔
    graph.Walk (trail.path.map name) ∧ graph.Goes (trail.path.map name) (name trail.current) (name index) := by
  simpa [Trail.extend, Trail.path] using @walk_snoc _ graph (trail.front.map name) (name trail.current) (name index)

theorem maximal_trail : graph.Maximal (trail.path.map name) ↔
    graph.Walk (trail.path.map name) ∧ ∀ next, ¬ graph.Goes (trail.path.map name) (name trail.current) next := by
  simpa [Trail.path] using @maximal_iff _ graph (trail.front.map name) (name trail.current)

theorem yields_iff (looks : graph.Looks name look outcome) (walk : graph.Walk (trail.path.map name)) :
    Yields look trail result ↔
      ∃ rest, graph.Maximal ((trail.path ++ rest).map name) ∧ outcome (trail.path ++ rest) = some result := by
  refine ⟨?_, ?_⟩
  · intro yields
    induction yields with
    | @done trail result found =>
      by_cases maximal : graph.Maximal (trail.path.map name)
      · rw [looks.stops trail maximal, Look.done.injEq] at found
        exact ⟨[], by simpa using maximal, by simpa using found⟩
      · obtain ⟨nodes, shown, _⟩ := looks.goes trail walk maximal
        simp [shown] at found
    | @more trail child children result goes member _ ih =>
      by_cases maximal : graph.Maximal (trail.path.map name)
      · simp [looks.stops trail maximal] at goes
      · obtain ⟨nodes, shown, ways⟩ := looks.goes trail walk maximal
        cases shown.symm.trans goes
        obtain ⟨next, way, rfl⟩ := List.mem_map.mp member
        obtain ⟨rest, reached, outcomeIs⟩ := ih (walk_extend.mpr ⟨walk, (ways _).mpr ⟨next, way, rfl⟩⟩)
        refine ⟨next :: rest, ?_, ?_⟩
        · simpa [Trail.extend, Trail.path] using reached
        · simpa [Trail.extend, Trail.path] using outcomeIs
  · intro ⟨rest, maximal, outcomeIs⟩
    -- the walk is followed node by node to its end
    induction rest generalizing trail with
    | nil =>
      rw [List.append_nil] at maximal outcomeIs
      exact .done (by rw [looks.stops trail maximal, outcomeIs])
    | cons next rest ih =>
      have extended : graph.Walk ((trail.extend next).path.map name) := by
        have longer : graph.Walk (trail.path.map name ++ [name next] ++ rest.map name) := by simpa using maximal.walk
        simpa [Trail.extend, Trail.path] using longer.left
      obtain ⟨_, way⟩ := walk_extend.mp extended
      obtain ⟨nodes, shown, ways⟩ := looks.goes trail walk fun maximal => (maximal_trail.mp maximal).2 _ way
      obtain ⟨same, member, equal⟩ := (ways _).mp way
      apply Yields.more shown (List.mem_map_of_mem (looks.injective equal ▸ member))
      apply ih extended
      · simpa [Trail.extend, Trail.path] using maximal
      · simpa [Trail.extend, Trail.path] using outcomeIs

/-- Every walk has names. -/
theorem Walk.named (walk : graph.Walk path) (looks : graph.Looks name look outcome) (start : name first = graph.start) :
    ∃ trail : Trail Index, trail.path.map name = path := by
  induction path using List.reverseRecOn with
  | nil => exact absurd walk not_walk_nil
  | append_singleton path node ih =>
    rcases path.eq_nil_or_concat' with rfl | ⟨front, last, rfl⟩
    · exact ⟨⟨[], first⟩, by simp [Trail.path, start, (walk_singleton.mp walk).1]⟩
    · obtain ⟨walk, goes⟩ := walk_snoc.mp walk
      obtain ⟨trail, same⟩ := ih walk
      obtain ⟨_, rfl⟩ : front = trail.front.map name ∧ last = name trail.current := by
        simpa [Trail.path, eq_comm] using same
      rw [← same] at goes walk ⊢
      obtain ⟨nodes, _, ways⟩ := looks.goes trail walk fun maximal => (maximal_trail.mp maximal).2 _ goes
      obtain ⟨next, _, rfl⟩ := (ways _).mp goes
      exact ⟨trail.extend next, by simp [Trail.extend, Trail.path]⟩

/-- Looking from the start on yields what comes of the maximal walks. -/
theorem yields_start (looks : graph.Looks name look outcome) (start : name first = graph.start) (room : 0 < graph.limit) :
    Yields look ⟨[], first⟩ result ↔ ∃ path, graph.Maximal (path.map name) ∧ outcome path = some result := by
  have walk : graph.Walk ((Trail.mk [] first).path.map name) := walk_singleton.mpr ⟨start, room⟩
  rw [yields_iff looks walk]
  refine ⟨fun ⟨rest, maximal, ends⟩ => ⟨_, maximal, ends⟩, fun ⟨path, maximal, ends⟩ => ?_⟩
  have starts := maximal.walk.starts
  cases path with
  | nil => cases starts
  | cons head rest =>
    obtain rfl : head = first := looks.injective ((Option.some.inj starts).trans start.symm)
    exact ⟨rest, maximal, ends⟩

end Looking

end Graph

end UsgRadius.Data
