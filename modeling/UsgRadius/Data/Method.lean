import UsgRadius.Data.Results
import Mathlib.Logic.Relation

namespace UsgRadius.Data

/-! Methods on a mutable receiver. A call gives a result, leaves a state also
when it fails, and is seen to perform events. Weakest preconditions say what a
call is sure to do, and an abstract machine can be followed call by call. -/

structure Outcome (State Event Failure Value : Type) where
  result : Except Failure Value
  state : State
  events : List Event

structure Method (State Event Failure Value : Type) where
  run : State → Outcome State Event Failure Value

namespace Method

variable {State Part Event Unseen Failure Value Next Input : Type} {change : State → State}
  {first : Method State Event Failure Value} {between : State}

/-- An error ends the method, as the `?` operator does, but undoes nothing. -/
protected def bind (first : Method State Event Failure Value) (next : Value → Method State Event Failure Next) :
    Method State Event Failure Next where
  run := fun state =>
    match first.run state with
    | ⟨.error reason, state, events⟩ => ⟨.error reason, state, events⟩
    | ⟨.ok value, state, events⟩ =>
      let rest := (next value).run state
      { rest with events := events ++ rest.events }

instance : Monad (Method State Event Failure) where
  pure := fun value => ⟨fun state => ⟨.ok value, state, []⟩⟩
  bind := Method.bind

def self : Method State Event Failure State :=
  ⟨fun state => ⟨.ok state, state, []⟩⟩

def update (change : State → State) : Method State Event Failure Unit :=
  ⟨fun state => ⟨.ok (), change state, []⟩⟩

/-- `result?`. -/
def check (result : Except Failure Value) : Method State Event Failure Value :=
  ⟨fun state => ⟨result, state, []⟩⟩

def fail (reason : Failure) : Method State Event Failure Value :=
  check (.error reason)

def note (event : Event) : Method State Event Failure Unit :=
  ⟨fun state => ⟨.ok (), state, [event]⟩⟩

/-- A call of foreign code on the receiver. -/
def call (operation : State → Except Failure Value × State) : Method State Event Failure Value :=
  ⟨fun state => ⟨(operation state).1, (operation state).2, []⟩⟩

/-- Call a method of a part of the receiver; what happens inside the part is
not seen from outside. -/
def within (get : State → Part) (set : Part → State → State) (method : Method Part Unseen Failure Value) :
    Method State Event Failure Value :=
  ⟨fun state =>
    let inner := method.run (get state)
    ⟨inner.result, set inner.state state, []⟩⟩

section Run

variable {state : State} {value : Value} {next : Value → Method State Event Failure Next}

theorem run_self_bind {next : State → Method State Event Failure Next} :
    (self >>= next).run state = (next state).run state := rfl

theorem run_update_bind {next : Unit → Method State Event Failure Next} :
    (update change >>= next).run state = (next ()).run (change state) := rfl

theorem run_check_bind : (check (.ok value) >>= next).run state = (next value).run state := rfl

theorem run_bind_of (ran : first.run state = ⟨.ok value, between, []⟩) :
    (first >>= next).run state = (next value).run between := by
  simp only [bind, Method.bind, ran]
  rfl

end Run

/-- A call of `method` after the events of `journal` ends as `post` says. -/
def wp (method : Method State Event Failure Value) (post : Except Failure Value → List Event → State → Prop)
    (journal : List Event) (state : State) : Prop :=
  post (method.run state).result (journal ++ (method.run state).events) (method.run state).state

variable {value : Value}

section Rules

variable {journal : List Event} {state : State} {post mid : Except Failure Value → List Event → State → Prop}
  {method first : Method State Event Failure Value} {change : State → State} {result : Except Failure Value}
  {event : Event} {next : Value → Method State Event Failure Next}

theorem wp_mono (spec : method.wp mid journal state)
    (implies : ∀ result journal state, mid result journal state → post result journal state) :
    method.wp post journal state :=
  implies _ _ _ spec

theorem wp_and {other : Except Failure Value → List Event → State → Prop} (first : method.wp post journal state)
    (second : method.wp other journal state) :
    method.wp (fun result journal state => post result journal state ∧ other result journal state) journal state :=
  ⟨first, second⟩

@[simp] theorem wp_pure :
    (pure value : Method State Event Failure Value).wp post journal state ↔ post (.ok value) journal state := by
  simp [wp, pure]

@[simp] theorem wp_self {post : Except Failure State → List Event → State → Prop} :
    self.wp post journal state ↔ post (.ok state) journal state := by
  simp [wp, self]

@[simp] theorem wp_update {post : Except Failure Unit → List Event → State → Prop} :
    (update change).wp post journal state ↔ post (.ok ()) journal (change state) := by
  simp [wp, update]

@[simp] theorem wp_check : (check result).wp post journal state ↔ post result journal state := by
  simp [wp, check]

@[simp] theorem wp_fail {reason : Failure} :
    (fail reason : Method State Event Failure Value).wp post journal state ↔ post (.error reason) journal state :=
  wp_check

@[simp] theorem wp_note {post : Except Failure Unit → List Event → State → Prop} :
    (note event).wp post journal state ↔ post (.ok ()) (journal ++ [event]) state := by
  simp [wp, note]

@[simp] theorem wp_call {operation : State → Except Failure Value × State} :
    (call operation).wp post journal state ↔ post (operation state).1 journal (operation state).2 := by
  simp [wp, call]

theorem wp_within {get : State → Part} {set : Part → State → State} {method : Method Part Unseen Failure Value} :
    (within get set method).wp post journal state ↔
      method.wp (fun result _ part => post result journal (set part state)) [] (get state) := by
  simp [wp, within]

theorem wp_bind {post : Except Failure Next → List Event → State → Prop} :
    (first >>= next).wp post journal state ↔
      first.wp (fun result journal state =>
        match result with
        | .ok value => (next value).wp post journal state
        | .error reason => post (.error reason) journal state) journal state := by
  simp only [wp, bind, Method.bind]
  cases first.run state with
  | mk result after events =>
    cases result with
    | error reason => rfl
    | ok value => simp only [List.append_assoc]

section Prefixes

variable {post : Except Failure Next → List Event → State → Prop} {next : Unit → Method State Event Failure Next}

@[simp] theorem wp_self_bind {next : State → Method State Event Failure Next} :
    (self >>= next).wp post journal state ↔ (next state).wp post journal state := by
  rw [wp_bind, wp_self]

@[simp] theorem wp_update_bind :
    (update change >>= next).wp post journal state ↔ (next ()).wp post journal (change state) := by
  rw [wp_bind, wp_update]

@[simp] theorem wp_note_bind :
    (note event >>= next).wp post journal state ↔ (next ()).wp post (journal ++ [event]) state := by
  rw [wp_bind, wp_note]

theorem wp_check_bind {next : Value → Method State Event Failure Next} :
    (check result >>= next).wp post journal state ↔
      (∀ value, result = .ok value → (next value).wp post journal state) ∧
      ∀ reason, result = .error reason → post (.error reason) journal state := by
  rw [wp_bind, wp_check]
  cases result <;> simp

end Prefixes

theorem wp_bind_of {post : Except Failure Next → List Event → State → Prop} (spec : first.wp mid journal state)
    (succeeds : ∀ value journal state, mid (.ok value) journal state → (next value).wp post journal state)
    (fails : ∀ reason journal state, mid (.error reason) journal state → post (.error reason) journal state) :
    (first >>= next).wp post journal state := by
  rw [wp_bind]
  apply wp_mono spec
  intro result journal state reached
  cases result with
  | ok value => exact succeeds value journal state reached
  | error reason => exact fails reason journal state reached

end Rules

/-- The states reached by calls whose results are all accepted, and the events
seen on the way. With every result accepted these are all the states the
receiver can be in, errors included. -/
inductive Calls (method : Input → Method State Event Failure Value) (accepts : Except Failure Value → Prop)
    (start : State) : List Event → State → Prop
  | start : Calls method accepts start [] start
  | call {journal : List Event} {state : State} (earlier : Calls method accepts start journal state)
      (input : Input) (accepted : accepts ((method input).run state).result) :
      Calls method accepts start (journal ++ ((method input).run state).events) ((method input).run state).state

namespace Calls

variable {method : Input → Method State Event Failure Value} {accepts : Except Failure Value → Prop}
  {start state : State} {journal : List Event}

theorem invariant (Holds : List Event → State → Prop) (initial : Holds [] start)
    (kept : ∀ input journal state, Holds journal state →
      (method input).wp (fun result journal state => accepts result → Holds journal state) journal state)
    (calls : Calls method accepts start journal state) : Holds journal state := by
  induction calls with
  | start => exact initial
  | call earlier input accepted ih => exact kept input _ _ ih accepted

end Calls

def runAll (method : Input → Method State Event Failure Value) :
    List Input → (journal : List Event) → (state : State) → List Event × State
  | [], journal, state => (journal, state)
  | input :: rest, journal, state =>
    runAll method rest (journal ++ ((method input).run state).events) ((method input).run state).state

def results (method : Input → Method State Event Failure Value) : List Input → State → List (Except Failure Value)
  | [], _ => []
  | input :: rest, state => ((method input).run state).result :: results method rest ((method input).run state).state

theorem Calls.runAll {method : Input → Method State Event Failure Value} {start state : State}
    {journal : List Event} (calls : Calls method (fun _ => True) start journal state) (inputs : List Input) :
    Calls method (fun _ => True) start (runAll method inputs journal state).1
      (runAll method inputs journal state).2 := by
  induction inputs generalizing journal state with
  | nil => exact calls
  | cons input rest ih => exact ih (.call calls input trivial)

section Follows

variable {View : Type} {move : View → View → Prop} {observe : List Event → State → View} {journal : List Event}
  {state : State} {method : Method State Event Failure Value}
  {mid post : Except Failure Value → List Event → State → Prop} {next : Value → Method State Event Failure Next}
  {result : Except Failure Value}

/-- Seen through `observe`, the call is a sequence of moves; it ends as `post`
says. -/
def Follows (move : View → View → Prop) (observe : List Event → State → View)
    (method : Method State Event Failure Value) (post : Except Failure Value → List Event → State → Prop)
    (journal : List Event) (state : State) : Prop :=
  method.wp (fun result after final =>
    Relation.ReflTransGen move (observe journal state) (observe after final) ∧ post result after final)
    journal state

theorem Follows.moves (follows : Follows move observe method mid journal state) :
    Follows move observe method (fun _ _ _ => True) journal state :=
  ⟨follows.1, trivial⟩

theorem Follows.ends (follows : Follows move observe method post journal state) : method.wp post journal state :=
  wp_mono follows fun _ _ _ => And.right

theorem Follows.bind {post : Except Failure Next → List Event → State → Prop}
    (follows : Follows move observe first mid journal state)
    (succeeds : ∀ value journal state, mid (.ok value) journal state →
      Follows move observe (next value) post journal state)
    (fails : ∀ reason journal state, mid (.error reason) journal state → post (.error reason) journal state) :
    Follows move observe (first >>= next) post journal state := by
  apply wp_bind_of follows
  · intro value middle between ⟨moved, reached⟩
    apply wp_mono (succeeds value middle between reached)
    intro result after final ⟨further, ended⟩
    exact ⟨moved.trans further, ended⟩
  · grind

@[simp] theorem follows_pure :
    Follows move observe (pure value) post journal state ↔ post (.ok value) journal state := by
  rw [Follows, wp_pure]
  exact ⟨And.right, fun ended => ⟨.refl, ended⟩⟩

@[simp] theorem follows_check : Follows move observe (check result) post journal state ↔ post result journal state := by
  rw [Follows, wp_check]
  exact ⟨And.right, fun ended => ⟨.refl, ended⟩⟩

@[simp] theorem follows_self_bind {next : State → Method State Event Failure Next}
    {post : Except Failure Next → List Event → State → Prop} :
    Follows move observe (self >>= next) post journal state ↔
      Follows move observe (next state) post journal state :=
  wp_self_bind

theorem follows_check_bind {post : Except Failure Next → List Event → State → Prop} :
    Follows move observe (check result >>= next) post journal state ↔
      (∀ value, result = .ok value → Follows move observe (next value) post journal state) ∧
      ∀ reason, result = .error reason → post (.error reason) journal state := by
  cases result with
  | ok value =>
    refine ⟨fun follows => ⟨?_, ?_⟩, fun ⟨follows, _⟩ => follows value rfl⟩
    · intro other same
      cases same
      exact follows
    · intro reason impossible
      cases impossible
  | error reason =>
    refine ⟨fun follows => ⟨?_, ?_⟩, fun ⟨_, failed⟩ => ⟨?_, ?_⟩⟩
    · intro other impossible
      cases impossible
    · intro other same
      cases same
      simpa [wp, bind, Method.bind, check] using follows.2
    · simp [bind, Method.bind, check, Relation.ReflTransGen.refl]
    · simpa [bind, Method.bind, check] using failed reason rfl

theorem Follows.after_move {middle : List Event} (moved : move (observe journal state) (observe middle between))
    (follows : Follows move observe method post middle between) :
    method.wp (fun result after final =>
      Relation.ReflTransGen move (observe journal state) (observe after final) ∧ post result after final)
      middle between := by
  apply wp_mono follows
  intro _ _ _ ⟨further, ended⟩
  exact ⟨.head moved further, ended⟩

theorem Follows.quiet (spec : method.wp (fun result after final => observe after final = observe journal state ∧
      post result after final) journal state) : Follows move observe method post journal state := by
  apply wp_mono spec
  intro result after final ⟨same, ended⟩
  exact ⟨same ▸ .refl, ended⟩

end Follows

end Method

end UsgRadius.Data
