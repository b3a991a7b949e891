import SovereignSnap.Library

/-! # Handler scripts and their runs

A handler is a script of console lines and collaborator calls; a run answers the
calls from a behaviour of the collaborators and records every event.
-/

namespace SovereignSnap

open Js

inductive Level where
  | trace
  | log
  | error
deriving DecidableEq

/-- The calls the snap makes outside its own code: the custody requests and the
dialog through `snap.request`, `SLIP10Node.fromJSON`, the module-level `wasm`
codec, and the signer. -/
inductive Call where
  | getBip32PublicKey (params : JsValue)
  | getBip32Entropy (params : JsValue)
  | fromJSON (entropy : JsValue)
  | dialog (content : List Component)
  | bechEncodePublicKey (publicKey : String)
  | serializeCall (call : JsValue)
  | serializeUnsignedTransaction (transaction : JsValue)
  | sign (message : JsValue) (privateKey : String)
  | serializeTransaction (transaction : JsValue)
  | dealloc
deriving DecidableEq

inductive Event where
  | console (level : Level) (message : String)
  | call (c : Call) (outcome : Except JsValue JsValue)
deriving DecidableEq

inductive Script (α : Type) where
  | done (result : Except JsValue α)
  | console (level : Level) (message : String) (next : Script α)
  | invoke (c : Call) (resume : Except JsValue JsValue → Script α)

namespace Script

variable {α β : Type}

def bind : Script α → (α → Script β) → Script β
  | done (.ok a), f => f a
  | done (.error e), _ => done (.error e)
  | console l m next, f => console l m (next.bind f)
  | invoke c k, f => invoke c fun o => (k o).bind f

/-- `try { s } catch (e) { h(e) }`. -/
def tryCatch : Script α → (JsValue → Script α) → Script α
  | done (.ok a), _ => done (.ok a)
  | done (.error e), h => h e
  | console l m next, h => console l m (next.tryCatch h)
  | invoke c k, h => invoke c fun o => (k o).tryCatch h

instance : Monad Script where
  pure a := done (.ok a)
  bind := bind

instance : MonadExceptOf JsValue Script where
  throw e := done (.error e)
  tryCatch := tryCatch

/-- `console.trace`, `console.log` or `console.error`. -/
def write (l : Level) (m : String) : Script Unit := console l m (done (.ok ()))

def call (c : Call) : Script JsValue := invoke c done

def lift (r : Except JsValue α) : Script α := done r

/-! ## Runs -/

/-- A behaviour of the collaborators: the outcome of each call, given the events before it. -/
def Env := List Event → Call → Except JsValue JsValue

/-- Collaborators that answer each call the same way, whatever came before it. -/
def Env.ofAnswers (answer : Call → Except JsValue JsValue) : Env := fun _ => answer

structure Run (α : Type) where
  events : List Event
  result : Except JsValue α

/-- The run of a script after the events `past`. -/
def run (env : Env) : List Event → Script α → Run α
  | _, done r => ⟨[], r⟩
  | past, console l m next =>
      let rest := next.run env (past ++ [.console l m])
      ⟨.console l m :: rest.events, rest.result⟩
  | past, invoke c k =>
      let o := env past c
      let rest := (k o).run env (past ++ [.call c o])
      ⟨.call c o :: rest.events, rest.result⟩

variable (env : Env)

@[simp] theorem bind_eq (s : Script α) (f : α → Script β) : s >>= f = s.bind f := rfl

@[simp] theorem pure_eq (a : α) : (pure a : Script α) = done (.ok a) := rfl

@[simp] theorem throw_eq (e : JsValue) : (throw e : Script α) = done (.error e) := rfl

@[simp] theorem tryCatch_eq (s : Script α) (h : JsValue → Script α) :
    (MonadExcept.tryCatch s h : Script α) = s.tryCatch h := rfl

@[simp] theorem run_done (past : List Event) (r : Except JsValue α) :
    (done r).run env past = ⟨[], r⟩ := rfl

@[simp] theorem write_bind (l : Level) (m : String) (f : Unit → Script α) :
    (write l m).bind f = console l m (f ()) := rfl

@[simp] theorem call_bind (c : Call) (f : JsValue → Script α) :
    (call c).bind f = invoke c fun o => (done o).bind f := rfl

@[simp] theorem lift_bind (r : Except JsValue α) (f : α → Script β) :
    (lift r).bind f = (done r).bind f := rfl

@[simp] theorem done_ok_bind (a : α) (f : α → Script β) : (done (.ok a)).bind f = f a := rfl

@[simp] theorem done_error_bind (e : JsValue) (f : α → Script β) :
    (done (.error e)).bind f = done (.error e) := rfl

@[simp] theorem console_bind (l : Level) (m : String) (next : Script α) (f : α → Script β) :
    (console l m next).bind f = console l m (next.bind f) := rfl

@[simp] theorem invoke_bind (c : Call) (k : Except JsValue JsValue → Script α) (f : α → Script β) :
    (invoke c k).bind f = invoke c fun o => (k o).bind f := rfl

@[simp] theorem done_ok_tryCatch (a : α) (h : JsValue → Script α) :
    (done (.ok a)).tryCatch h = done (.ok a) := rfl

@[simp] theorem done_error_tryCatch (e : JsValue) (h : JsValue → Script α) :
    (done (.error e)).tryCatch h = h e := rfl

@[simp] theorem console_tryCatch (l : Level) (m : String) (next : Script α) (h : JsValue → Script α) :
    (console l m next).tryCatch h = console l m (next.tryCatch h) := rfl

@[simp] theorem invoke_tryCatch (c : Call) (k : Except JsValue JsValue → Script α)
    (h : JsValue → Script α) : (invoke c k).tryCatch h = invoke c fun o => (k o).tryCatch h := rfl

@[simp] theorem run_console (past : List Event) (l : Level) (m : String) (next : Script α) :
    (console l m next).run env past =
      ⟨.console l m :: (next.run env (past ++ [.console l m])).events,
        (next.run env (past ++ [.console l m])).result⟩ := rfl

@[simp] theorem run_invoke (past : List Event) (c : Call) (k : Except JsValue JsValue → Script α) :
    (invoke c k).run env past =
      ⟨.call c (env past c) :: ((k (env past c)).run env (past ++ [.call c (env past c)])).events,
        ((k (env past c)).run env (past ++ [.call c (env past c)])).result⟩ := rfl

/-! ## Partial runs -/

/-- The script `s` can make the events `es`, for some outcomes of its calls,
and continue as `s'`. -/
inductive Reaches : Script α → List Event → Script α → Prop
  | refl (s : Script α) : Reaches s [] s
  | console {l : Level} {m : String} {next s' : Script α} {es : List Event} :
      Reaches next es s' → Reaches (console l m next) (.console l m :: es) s'
  | invoke {c : Call} {k : Except JsValue JsValue → Script α} {o : Except JsValue JsValue}
      {s' : Script α} {es : List Event} :
      Reaches (k o) es s' → Reaches (invoke c k) (.call c o :: es) s'

theorem Reaches.trans {s s' s'' : Script α} {es es' : List Event} (h : s.Reaches es s')
    (h' : s'.Reaches es' s'') : s.Reaches (es ++ es') s'' := by
  induction h with
  | refl => exact h'
  | console _ ih => exact .console (ih h')
  | invoke _ ih => exact .invoke (ih h')

theorem reaches_run (s : Script α) (past : List Event) :
    s.Reaches (s.run env past).events (done (s.run env past).result) := by
  induction s generalizing past with
  | done r => exact .refl _
  | console l m next ih => exact .console (ih _)
  | invoke c k ih => exact .invoke (ih _ _)

end Script

end SovereignSnap
