import OpenApi.DataType
import OpenApi.Document.Paths

/-!
# Logged results

What a computation has to report stands beside its result. A failed one keeps what it reported until
then, and the outcome never depends on the notices.
-/

namespace OpenApi

inductive Level where
  | trace | debug | warn
  deriving DecidableEq, Repr

namespace Level

def name : Level → String
  | .trace => "trace"
  | .debug => "debug"
  | .warn => "warn"

def rank : Level → Nat
  | .trace => 0
  | .debug => 1
  | .warn => 2

end Level

inductive Notice where
  | branchesIgnored (location : String) (count : Nat)
  | notAnArray (type : DataType)
  | recordsRegistered (count : Nat)
  | fieldTypeReplaced (location : String) (old new : DataType)
  | fieldTypesReplaced (count : Nat)
  | missingOperationId (method : Method) (path : String)
  | sharedOperationId (id : String)
  | responseKeySkipped (location key : String)
  | operationBuilt (id : String) (method : Method) (path : String) (parameters : Nat)
  | operationsBuilt (count : Nat)
  | callableTaken (group callable existing skipped : String)
  | noServers
  | clientReady (records operations groups : Nat) (url : String)
  | requestSent (method : Method) (url : String)
  | responseReceived (id : String) (status : Nat)
  | rendering (client output : String)
  | wrapperSkipped (id reason : String)
  | wrapperAmbiguous (id parameter : String)

namespace Notice

def level : Notice → Level
  | .fieldTypeReplaced .. => .trace
  | .recordsRegistered .. | .fieldTypesReplaced .. | .operationBuilt .. | .operationsBuilt ..
  | .clientReady .. | .requestSent .. | .responseReceived .. | .rendering .. => .debug
  | _ => .warn

def message : Notice → String
  | .branchesIgnored location count =>
    s!"{location}: allOf with {count} branches is not supported, treating as any"
  | .notAnArray type =>
    s!"expected an array for {type.render}, passing value through unchanged"
  | .recordsRegistered count => s!"registered {count} record types"
  | .fieldTypeReplaced location old new => s!"{location}: {old.render} -> {new.render}"
  | .fieldTypesReplaced count => s!"replaced {count} placeholder field types"
  | .missingOperationId method path => s!"`operationId` not found in: [{method.name}] {path}"
  | .sharedOperationId id =>
    s!"multiple operations use operationId `{id}`, operation ids should be unique"
  | .responseKeySkipped location key =>
    s!"{location}: response key `{key}` is not a status code, skipping"
  | .operationBuilt id method path parameters =>
    s!"built {id} [{method.name}] {path} with {parameters} parameters"
  | .operationsBuilt count => s!"built {count} operation ids"
  | .callableTaken group callable existing skipped =>
    s!"namespace '{group}': callable '{callable}' already maps to '{existing}', "
      ++ s!"skipping '{skipped}'"
  | .noServers => "document declares no servers and none was configured"
  | .clientReady records operations groups url =>
    s!"client ready: {records} records, {operations} operations, {groups} namespaces, "
      ++ s!"server {url}"
  | .requestSent method url => s!"{method.name} {url}"
  | .responseReceived id status => s!"{id} -> {status}"
  | .rendering client output => s!"rendering `{client}` into {output}"
  | .wrapperSkipped id reason => s!"skipping wrapper for `{id}`: {reason}"
  | .wrapperAmbiguous id parameter =>
    s!"skipping wrapper for `{id}`: more than one parameter is named `{parameter}`"

end Notice

/-- An outcome with the notices raised on the way to it. -/
structure Logged (ε α : Type) where
  notices : List Notice
  outcome : Except ε α

namespace Logged

variable {ε ε' α β : Type}

protected def pure (a : α) : Logged ε α :=
  ⟨[], .ok a⟩

protected def bind (x : Logged ε α) (f : α → Logged ε β) : Logged ε β :=
  match x.outcome with
  | .ok a => ⟨x.notices ++ (f a).notices, (f a).outcome⟩
  | .error e => ⟨x.notices, .error e⟩

instance : Monad (Logged ε) where
  pure := Logged.pure
  bind := Logged.bind

instance : MonadExceptOf ε (Logged ε) where
  throw e := ⟨[], .error e⟩
  tryCatch x handle :=
    match x.outcome with
    | .ok _ => x
    | .error e => ⟨x.notices ++ (handle e).notices, (handle e).outcome⟩

def notice (n : Notice) : Logged ε Unit :=
  ⟨[n], .ok ()⟩

def ofExcept (x : Except ε α) : Logged ε α :=
  ⟨[], x⟩

instance : MonadLift (Except ε) (Logged ε) where
  monadLift := ofExcept

def mapError (f : ε → ε') (x : Logged ε α) : Logged ε' α :=
  ⟨x.notices, x.outcome.mapError f⟩

@[simp] theorem outcome_pure (a : α) : (pure a : Logged ε α).outcome = .ok a := rfl

@[simp] theorem outcome_throw (e : ε) : (throw e : Logged ε α).outcome = .error e := rfl

@[simp] theorem outcome_notice (n : Notice) : (notice n : Logged ε Unit).outcome = .ok () := rfl

@[simp] theorem outcome_ofExcept (x : Except ε α) : (ofExcept x).outcome = x := rfl

@[simp] theorem outcome_mapError (f : ε → ε') (x : Logged ε α) :
    (x.mapError f).outcome = x.outcome.mapError f := rfl

@[simp] theorem outcome_bind (x : Logged ε α) (f : α → Logged ε β) :
    (x >>= f).outcome = x.outcome.bind fun a => (f a).outcome := by
  change (Logged.bind x f).outcome = _
  unfold Logged.bind
  cases h : x.outcome <;> rfl

theorem ofExcept_ok_bind (a : α) (f : α → Logged ε β) : (ofExcept (.ok a) >>= f) = f a := rfl

theorem ofExcept_error_bind (e : ε) (f : α → Logged ε β) :
    (ofExcept (.error e) >>= f) = throw e := rfl

theorem outcome_bind_of_ok {x : Logged ε α} {a : α} (h : x.outcome = .ok a)
    (f : α → Logged ε β) : (x >>= f).outcome = (f a).outcome := by
  rw [outcome_bind, h]
  rfl

theorem outcome_bind_pure (x : Logged ε α) (f : α → β) :
    (x >>= fun a => pure (f a)).outcome = x.outcome.map f := by
  rw [outcome_bind]
  cases x.outcome <;> rfl

theorem outcome_bind_eq_ok_iff {x : Logged ε α} {f : α → Logged ε β} {b : β} :
    (x >>= f).outcome = .ok b ↔ ∃ a, x.outcome = .ok a ∧ (f a).outcome = .ok b := by
  rw [outcome_bind]
  cases x.outcome <;> simp [Except.bind]

theorem outcome_bind_eq_error_iff {x : Logged ε α} {f : α → Logged ε β} {e : ε} :
    (x >>= f).outcome = .error e ↔
      x.outcome = .error e ∨ ∃ a, x.outcome = .ok a ∧ (f a).outcome = .error e := by
  rw [outcome_bind]
  cases x.outcome <;> simp [Except.bind]

end Logged

end OpenApi
