import SqlTemplate.Evaluator
import SqlTemplate.Render.Layer
import SqlTemplate.StatementKind

/-!
# Rendering

A rendering reads and changes bindings, takes numbers for the passes of loops, asks the evaluator
and yields chunks. An error keeps the chunks and the state reached so far.
-/

namespace SqlTemplate

/-- What happens on the way, in order. -/
inductive Event
  /-- An expression is evaluated. -/
  | evaluated (source : Text)
  /-- An expression is parsed, as it is not in the cache. -/
  | parsing (source : Text)
  /-- The text of an expression is spliced into a statement. -/
  | spliced (text : Text)
  /-- The filter does not accept the text of an expression. -/
  | rejected (text : Text) (pattern : String)
  /-- A statement is rendered. -/
  | rendered (statement : String) (kind : StatementKind) (parameters : Nat) (sql : Text)

/-- What outlives a rendering: the cache, and the events so far. -/
structure Memory where
  cache : Expr.Cache
  events : List Event := []

/-- What a rendering reads and changes, and the evaluator that it asks. -/
structure RenderState where
  bindings : Bindings
  /-- The number of the next pass of a loop. -/
  nextId : Nat := 0
  memory : Memory
  evaluator : Evaluator := .standard

/-- What a rendering comes to. -/
structure Outcome (α : Type) where
  result : Except Error α
  chunks : List Text
  state : RenderState

/-- A rendering that yields chunks and, unless it fails, a result. -/
def Render (α : Type) : Type := RenderState → Outcome α

namespace Render

variable {α β : Type}

/-- No chunks and no change. -/
protected def pure (a : α) : Render α := fun s => ⟨.ok a, [], s⟩

/-- One rendering after another. -/
protected def bind (first : Render α) (next : α → Render β) : Render β := fun s =>
  let o := first s
  match o.result with
  | .error e => ⟨.error e, o.chunks, o.state⟩
  | .ok a =>
    let p := next a o.state
    ⟨p.result, o.chunks ++ p.chunks, p.state⟩

instance : Monad Render where
  pure := Render.pure
  bind := Render.bind

/-- A bare result comes with no chunks and leaves the state. -/
theorem pure_apply (a : α) (s : RenderState) : (pure a : Render α) s = ⟨.ok a, [], s⟩ := rfl

/-- After a success the next rendering goes on from its state, and the chunks stand in order. -/
theorem bind_of_ok {first : Render α} {next : α → Render β} {s s' : RenderState} {a : α}
    {chunks : List Text} (h : first s = ⟨.ok a, chunks, s'⟩) :
    (first >>= next) s =
      ⟨(next a s').result, chunks ++ (next a s').chunks, (next a s').state⟩ := by
  change Render.bind first next s = _
  simp [Render.bind, h]

/-- A failure ends the rendering. -/
theorem bind_of_error {first : Render α} {next : α → Render β} {s s' : RenderState} {e : Error}
    {chunks : List Text} (h : first s = ⟨.error e, chunks, s'⟩) :
    (first >>= next) s = ⟨.error e, chunks, s'⟩ := by
  change Render.bind first next s = _
  simp [Render.bind, h]

/-- Mapping by the identity changes nothing. -/
theorem id_map (x : Render α) : id <$> x = x := by
  funext s
  cases h : x s with
  | mk result chunks state =>
    cases result with
    | error e => exact bind_of_error h
    | ok a =>
      refine (bind_of_ok h).trans ?_
      simp [Function.comp, Render.pure]

/-- A bare result is handed on. -/
theorem pure_bind (a : α) (f : α → Render β) : pure a >>= f = f a := by
  funext s
  exact (bind_of_ok (pure_apply a s)).trans (by simp)

/-- Grouping of renderings does not matter. -/
theorem bind_assoc {γ : Type} (x : Render α) (f : α → Render β) (g : β → Render γ) :
    x >>= f >>= g = x >>= fun a => f a >>= g := by
  funext s
  cases h : x s with
  | mk result chunks state =>
    cases result with
    | error e => rw [bind_of_error h, bind_of_error (bind_of_error h)]
    | ok a =>
      cases hf : f a state with
      | mk result' chunks' state' =>
        have hx : (x >>= f) s =
            ⟨result', chunks ++ chunks', state'⟩ := by rw [bind_of_ok h, hf]
        rw [bind_of_ok h]
        cases result' with
        | error e => rw [bind_of_error hx, bind_of_error hf]
        | ok b => simp [bind_of_ok hx, bind_of_ok hf]

instance : LawfulMonad Render := LawfulMonad.mk' Render id_map pure_bind bind_assoc

/-- The failure with the given error. -/
def fail (e : Error) : Render α := fun s => ⟨.error e, [], s⟩

/-- Yields one chunk. -/
def emit (chunk : Text) : Render Unit := fun s => ⟨.ok (), [chunk], s⟩

/-- Changes the state. -/
def update (change : RenderState → RenderState) : Render Unit := fun s => ⟨.ok (), [], change s⟩

/-- Adds an event. -/
def record (event : Event) : Render Unit :=
  update fun s => { s with memory := { s.memory with events := s.memory.events ++ [event] } }

/-- Puts a value under a name. -/
def bindName (name : String) (value : Value) : Render Unit :=
  update fun s => { s with bindings := s.bindings.insert name value }

/-- Takes the entry under a name away. -/
def unbindName (name : String) : Render Unit :=
  update fun s => { s with bindings := s.bindings.remove name }

/-- A number that no pass has had. -/
def freshId : Render Nat := fun s => ⟨.ok s.nextId, [], { s with nextId := s.nextId + 1 }⟩

/-- A rendering whose chunks pass through a layer, and what becomes of the layer. -/
def within (layer : Layer) (inner : Render α) : Render (α × Layer) := fun s =>
  let o := inner s
  let (last, passed) := layer.feedAll o.chunks
  ⟨o.result.map (·, last), passed, o.state⟩

/-- The answer of the evaluator. What it parses for that is an event. -/
def ask (question : Evaluator → Bindings → Expr.Cache → Reply α) : Render α := fun s =>
  let reply := question s.evaluator s.bindings s.memory.cache
  ⟨reply.result, [], { s with memory := {
      cache := reply.cache
      events := s.memory.events ++ reply.parsed.map .parsing } }⟩

/-- The value of an expression. -/
def evaluate (source : Text) : Render Value := do
  record (.evaluated source)
  ask (·.value source)

/-- Whether an expression is true. -/
def evaluateTest (source : Text) : Render Bool := do
  record (.evaluated source)
  ask (·.test source)

/-- The elements of a collection. -/
def evaluateLoop (source : Text) (nullable : Bool) : Render (List LoopElement) := do
  record (.evaluated source)
  ask (·.elements source nullable)

/-- Fails unless the source denotes an expression. Nothing is evaluated. -/
def validate (source : Text) : Render Unit :=
  ask fun _ _ cache => (Evaluator.parsed source cache).andThen fun _ => .ok ()

end Render

end SqlTemplate
