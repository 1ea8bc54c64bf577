import Mathlib

/-! The owner of the hosted session (`core/src/auth/owner.rs`). Every section under the state lock is
one call; network results, times and cancellation flags come from outside. A generation is named by
the number of its shared flag, and a session by the operation that obtained it, which stands for the
identity of the shared pointers that the source compares. -/
namespace ContextRelay.SessionOwner

inductive LoginError
  | configuration | random | callback | expired | denied | unavailable | provider
  | credentialStore | busy | canceled
deriving DecidableEq

structure HostedIdentity where
  userId : Nat
  sessionId : Nat
deriving DecidableEq

structure StoredLogin where
  project : String
  identity : HostedIdentity
  refreshToken : String
deriving DecidableEq

structure HostedSession where
  project : String
  identity : HostedIdentity
  expiresAt : Nat
  accessToken : String
  refreshToken : String
deriving DecidableEq

def HostedSession.storedLogin (session : HostedSession) : StoredLogin :=
  ⟨session.project, session.identity, session.refreshToken⟩

structure SharedSession where
  operation : Nat
  session : HostedSession
deriving DecidableEq

/-- What the store holds, with the operation that saved it unless it was there from the start. -/
structure Credential where
  operation : Option Nat
  login : StoredLogin
deriving DecidableEq

structure State where
  generation : Nat
  initialized : Bool
  busy : Bool
  session : Option SharedSession
  sessionDeadline : Option Nat
deriving DecidableEq

inductive Kind
  | exchange | restore | refresh
deriving DecidableEq

/-- Where an operation stands: its network call is under way, its restore has found the network
unavailable and still has to allow a retry, or it has returned. -/
inductive Progress
  | running | retry | done
deriving DecidableEq

structure Operation where
  generation : Nat
  kind : Kind
  progress : Progress
deriving DecidableEq

/-- The owner with the flags, the store, the unused login attempts and the operations so far. -/
structure World where
  allocated : Nat
  canceled : Finset Nat
  state : State
  stored : Option Credential
  attempts : Finset Nat
  operations : List Operation
deriving DecidableEq

def World.initial (stored : Option StoredLogin) : World :=
  ⟨1, ∅, ⟨0, false, false, none, none⟩, stored.map fun login => ⟨none, login⟩, ∅, []⟩

/-- A call of the store fails with any error but unavailability, with or without effect. -/
inductive StoreOutcome
  | done
  | failed (error : LoginError) (known : error ≠ .unavailable) (effect : Bool)

def StoreOutcome.effective : StoreOutcome → Bool
  | .done => true
  | .failed _ _ effect => effect

def StoreOutcome.result : StoreOutcome → Except LoginError Unit
  | .done => .ok ()
  | .failed error _ _ => .error error

def World.clear (world : World) (outcome : StoreOutcome) : World :=
  if outcome.effective then { world with stored := none } else world

def World.save (world : World) (credential : Credential) (outcome : StoreOutcome) : World :=
  if outcome.effective then { world with stored := some credential } else world

def invalidate (world : World) : World :=
  { world with
    allocated := world.allocated + 1
    canceled := insert world.state.generation world.canceled
    state := ⟨world.allocated, true, false, none, none⟩ }

def suspend (world : World) : World := invalidate world

def beginLoginCancellable (world : World) (cancellation : Nat) (clear : StoreOutcome) :
    Except LoginError Unit × World :=
  if cancellation ∈ world.canceled ∨ cancellation = world.state.generation then
    (.error .canceled, world)
  else
    let world := invalidate world
    let world := { world with state := { world.state with generation := cancellation } }
    let world := world.clear clear
    match clear.result with
    | .error error => (.error error, world)
    | .ok () =>
      (.ok (),
        { world with
          state := { world.state with busy := true }
          attempts := insert cancellation world.attempts })

def cancelAttempt (world : World) (cancellation : Nat) (clear : StoreOutcome) :
    Except LoginError Unit × World :=
  let world := { world with canceled := insert cancellation world.canceled }
  if cancellation ≠ world.state.generation then (.error .canceled, world)
  else (clear.result, (invalidate world).clear clear)

def World.start (world : World) (kind : Kind) : World :=
  { world with operations := world.operations ++ [⟨world.state.generation, kind, .running⟩] }

/-- The section of `complete_login` before its network call, which uses up the attempt. -/
def completeLogin (world : World) (attempt : Nat) : Except LoginError Unit × World :=
  let world' := { world with attempts := world.attempts.erase attempt }
  if ¬ world.state.busy ∨ attempt ∈ world.canceled ∨ attempt ≠ world.state.generation then
    (.error .canceled, world')
  else (.ok (), world'.start .exchange)

/-- The section of `restore_cancellable` before its network call: what it loads from the store. -/
def restoreCancellable (world : World) (cancellation : Nat) (load : Except LoginError Unit) :
    Except LoginError (Option Credential) × World :=
  if world.state.initialized ∨ cancellation ≠ world.state.generation ∨
      cancellation ∈ world.canceled then (.error .canceled, world)
  else
    match load with
    | .error error => (.error error, world)
    | .ok () =>
      (.ok world.stored,
        { world.start .restore with
          state := { world.state with initialized := true, busy := true } })

/-- The section of `restore_cancellable` after an unavailable network. -/
def allowRetry (world : World) (generation : Nat) : World :=
  if generation = world.state.generation then
    { world with state := { world.state with initialized := false } }
  else world

/-- The section of `refresh_cancellable` before its network call. -/
def refreshCancellable (world : World) (cancellation : Nat) :
    Except LoginError SharedSession × World :=
  if cancellation ≠ world.state.generation ∨ world.state.generation ∈ world.canceled then
    (.error .canceled, world)
  else if world.state.busy then (.error .busy, world)
  else
    match world.state.session with
    | none => (.error .denied, world)
    | some session =>
      (.ok session, { world.start .refresh with state := { world.state with busy := true } })

/-- What `finish` meets: the times it reads, the results of the store, and whether the flag is set
while it saves. -/
structure Surroundings where
  beforeSave : Nat
  afterSave : Nat
  atPublish : Nat
  instant : Nat
  save : StoreOutcome
  clear : StoreOutcome
  withdrawn : Bool

def withdraw (world : World) (error : LoginError) (clear : StoreOutcome) :
    Except LoginError (Option HostedIdentity) × World :=
  let world := { world with state := { world.state with session := none } }.clear clear
  match clear.result with
  | .error failure => (.error failure, world)
  | .ok () => (.error error, world)

/-- `finish` once a session has passed the checks before the save. -/
def publish (world : World) (number generation : Nat) (session : HostedSession)
    (met : Surroundings) : Except LoginError (Option HostedIdentity) × World :=
  let world := world.save ⟨some number, session.storedLogin⟩ met.save
  let world :=
    if met.withdrawn then { world with canceled := insert generation world.canceled } else world
  match met.save.result with
  | .error error => withdraw world error met.clear
  | .ok () =>
    if generation ∈ world.canceled then withdraw world .canceled met.clear
    else if session.expiresAt ≤ met.afterSave then withdraw world .expired met.clear
    else
      (.ok (some session.identity),
        { world with
          state := { world.state with
            session := some ⟨number, session⟩
            sessionDeadline := some (met.instant + (session.expiresAt - met.atPublish - 1)) } })

def finish (world : World) (number generation : Nat)
    (result : Except LoginError (Option HostedSession)) (met : Surroundings) :
    Except LoginError (Option HostedIdentity) × World :=
  if generation ≠ world.state.generation then (.error .canceled, world)
  else
    let world := { world with state := { world.state with busy := false } }
    if generation ∈ world.canceled then withdraw world .canceled met.clear
    else
      match result with
      | .error error =>
        if error = .denied ∨ error = .provider ∨ error = .expired then
          withdraw world error met.clear
        else (.error error, world)
      | .ok none => (.ok none, world)
      | .ok (some session) =>
        if session.expiresAt ≤ met.beforeSave then withdraw world .expired met.clear
        else publish world number generation session met

def activeSession (world : World) (now instant : Nat) : Option SharedSession :=
  if world.state.generation ∈ world.canceled ∨
      ¬ world.state.sessionDeadline.any fun deadline => instant < deadline then none
  else world.state.session.filter fun shared => now < shared.session.expiresAt

def currentSession (world : World) (now instant : Nat) : Option SharedSession :=
  activeSession world now instant

def sessionFor (world : World) (cancellation : Nat) (identity : HostedIdentity)
    (now instant : Nat) : Except LoginError SharedSession :=
  if cancellation ≠ world.state.generation then .error .canceled
  else
    match activeSession world now instant with
    | none => .error .expired
    | some shared => if shared.session.identity ≠ identity then .error .denied else .ok shared

/-- The section of `logout`: local deletion comes with the invalidation, the remote call after it. -/
def logout (world : World) (clear : StoreOutcome) : Except LoginError Unit × World :=
  (clear.result, (invalidate world).clear clear)

/-! ### Runs -/

inductive Call
  | reserve
  | cancel (flag : Nat)
  | beginLogin (cancellation : Nat) (clear : StoreOutcome)
  | cancelAttempt (cancellation : Nat) (clear : StoreOutcome)
  | completeLogin (attempt : Nat)
  | restore (cancellation : Nat) (load : Except LoginError Unit)
  | refresh (cancellation : Nat)
  | finish (number : Nat) (result : Except LoginError (Option HostedSession)) (met : Surroundings)
  | allowRetry (number : Nat)
  | suspend
  | logout (clear : StoreOutcome)

def World.settle (world : World) (number : Nat) (operation : Operation) (progress : Progress) :
    World :=
  { world with operations := world.operations.set number { operation with progress } }

/-- An operation has more to do only when it is a restore that found the network unavailable. -/
def progressAfter (kind : Kind) (outcome : Except LoginError (Option HostedIdentity)) : Progress :=
  match kind, outcome with
  | .restore, .error .unavailable => .retry
  | _, _ => .done

/-- A call names a flag that exists, an attempt that is unused and an operation that has come to the
section; any other call is not one the program can make. -/
def Call.after (world : World) : Call → World
  | .reserve => { world with allocated := world.allocated + 1 }
  | .cancel flag =>
    if flag < world.allocated then { world with canceled := insert flag world.canceled } else world
  | .beginLogin cancellation clear =>
    if cancellation < world.allocated then (beginLoginCancellable world cancellation clear).2
    else world
  | .cancelAttempt cancellation clear =>
    if cancellation < world.allocated then (SessionOwner.cancelAttempt world cancellation clear).2
    else world
  | .completeLogin attempt =>
    if attempt ∈ world.attempts then (SessionOwner.completeLogin world attempt).2 else world
  | .restore cancellation load => (restoreCancellable world cancellation load).2
  | .refresh cancellation => (refreshCancellable world cancellation).2
  | .finish number result met =>
    match world.operations[number]? with
    | none => world
    | some operation =>
      if operation.progress = .running then
        let ended := SessionOwner.finish world number operation.generation result met
        ended.2.settle number operation (progressAfter operation.kind ended.1)
      else world
  | .allowRetry number =>
    match world.operations[number]? with
    | none => world
    | some operation =>
      if operation.progress = .retry then
        (SessionOwner.allowRetry world operation.generation).settle number operation .done
      else world
  | .suspend => SessionOwner.suspend world
  | .logout clear => (SessionOwner.logout world clear).2

def run (stored : Option StoredLogin) (calls : List Call) : World :=
  calls.foldl Call.after (World.initial stored)

theorem run_append (stored : Option StoredLogin) (calls more : List Call) :
    run stored (calls ++ more) = more.foldl Call.after (run stored calls) :=
  List.foldl_append

end ContextRelay.SessionOwner
