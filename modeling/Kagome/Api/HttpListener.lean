import Mathlib.Data.List.Basic

/-!
# The accept loop of `HttpListenerImpl` (`api/transport/impl/http/http_listener_impl.cpp`)

The application state manager calls `prepare()`, `start()` and `stop()` of the listener.
`prepare()` builds the acceptor on the configured endpoint. `start()` calls `acceptOnce()`,
which makes a new session and issues an `async_accept` into its socket with the handler
`on_accept`. If the listener still exists, the handler gives a session that accepted without
an error to the new-session handler and starts it, and then, while the acceptor is open, calls
`acceptOnce()` again. `stop()` cancels the acceptor.

boost::asio is modelled by what the listener sees of it. An accept waits until it completes
with or without an error. `cancel()` and the destruction of an acceptor complete its waiting
accepts with `operation_aborted`. The `io_context` later runs the handler of each completed
accept once, in any order. Nothing in the file closes an acceptor, so the one `prepare()`
builds stays open. Each of these is an `Event`; `step` runs one on the listener and `run` a
list of them, in any order the world chooses. An accept is named by the session whose socket
it fills, a session `acceptOnce()` has just made.

A listener started once accepts until it is released: the handler of every accept issues the
next one, and `stop()` only makes the waiting one fail. The count of accepts whose handler has
not run is the count of calls of `start()` that returned true (`pending_length_eq_starts`).
With one such call, the sessions started are those that took a connection, in order
(`started_eq_connected`).

`new_session_` is the only owner of the session an accept waits on: the handler hands it on and
starts it, and `SessionImpl::start` and the new-session handler, outside these sources, keep a
started session alive. A second `start()`, or the handler of the accept `stop()` aborted after
one, runs a second loop beside the first, whose `acceptOnce()` overwrites `new_session_` and
destroys the session the other loop's accept still fills (`freed`). A connection that then
arrives is written into a destroyed socket (`second_start_frees_waiting_session`). That is the
only failure besides the assertion of `start()` (`run_error_cause`).
-/

namespace Kagome.Api

/-- How a call ends without returning. -/
inductive Failure where
  /-- `BOOST_ASSERT(acceptor_)` in `start()`. -/
  | assertFailed
  /-- The handler reads `acceptor_` or `new_session_` while it is null. -/
  | nullDereference
  /-- asio writes an accepted connection into the socket of a destroyed session. -/
  | useAfterFree
  deriving DecidableEq

/-- An `Acceptor` built by `prepare()`, numbered in the order the acceptors were built. -/
structure Acceptor where
  id : Nat
  isOpen : Bool
  deriving DecidableEq

/-- An accept issued by `async_accept`: the acceptor it runs on, the session whose socket
takes the connection, and how it completed: `none` while it waits, `some true` without an
error, `some false` with one, such as `operation_aborted`. -/
structure Accept where
  acceptor : Nat
  session : Nat
  result : Option Bool
  deriving DecidableEq

namespace Accept

/-- A waiting accept of acceptor `id` completes with `operation_aborted`. -/
def abort (id : Nat) (a : Accept) : Accept :=
  if a.acceptor = id ∧ a.result = none then { a with result := some false } else a

/-- The waiting accept into session `s` completes, without an error when `ok`. -/
def complete (s : Nat) (ok : Bool) (a : Accept) : Accept :=
  if a.session = s ∧ a.result = none then { a with result := some ok } else a

@[simp] theorem abort_session (id : Nat) (a : Accept) : (a.abort id).session = a.session := by
  unfold abort
  split <;> rfl

@[simp] theorem complete_session (s : Nat) (ok : Bool) (a : Accept) :
    (a.complete s ok).session = a.session := by
  unfold complete
  split <;> rfl

end Accept

/-- The sessions of the accepts that completed without an error and whose handler has not
run, in order. -/
def successes (pending : List Accept) : List Nat :=
  pending.filterMap fun a => if a.result = some true then some a.session else none

/-- The members of the listener and what the world around it has done. Sessions are numbered
in the order `make_shared<SessionImpl>` makes them. -/
structure HttpListenerImpl where
  /-- `acceptor_`. -/
  acceptor : Option Acceptor
  /-- `on_new_session_` is set. -/
  onNewSession : Bool
  /-- `new_session_`. -/
  newSession : Option Nat
  /-- A `shared_ptr` still owns the listener, so `weak_from_this().lock()` succeeds. -/
  alive : Bool
  /-- The accepts whose handler has not run, in the order they were issued. -/
  pending : List Accept
  /-- The acceptors and the sessions made so far. -/
  acceptors : Nat
  sessions : Nat
  /-- The sessions whose socket took a connection, in order. -/
  connected : List Nat
  /-- The sessions passed to `on_new_session_`, and those started, in order. -/
  handed : List Nat
  started : List Nat
  /-- The calls of `start()` that returned true. -/
  starts : Nat
  deriving DecidableEq

namespace HttpListenerImpl

/-- The listener after its constructor: no acceptor, no handler, no session. -/
def init : HttpListenerImpl := ⟨none, false, none, true, [], 0, 0, [], [], [], 0⟩

/-- `acceptOnce()`: a new session, and an accept into its socket on `acceptor`. The assignment
to `new_session_` drops the one owner of the previous session (`freed`). -/
def acceptOnce (acceptor : Acceptor) (l : HttpListenerImpl) : HttpListenerImpl :=
  { l with
    newSession := some l.sessions
    sessions := l.sessions + 1
    pending := l.pending ++ [⟨acceptor.id, l.sessions, none⟩] }

/-- Session `s` is destroyed: `new_session_` was its only owner, `acceptOnce()` has moved it to
a newer session, and the session was not started. A started session is held by
`SessionImpl::start` and the new-session handler, outside these sources. -/
def freed (l : HttpListenerImpl) (s : Nat) : Bool :=
  decide (s < l.sessions ∧ l.newSession ≠ some s ∧ s ∉ l.started)

/-- The destruction or the `cancel()` of acceptor `id`. -/
def abortOn (id : Nat) (l : HttpListenerImpl) : HttpListenerImpl :=
  { l with pending := l.pending.map (Accept.abort id) }

/-- `prepare()`. When the constructor of `Acceptor` cannot open, bind or listen it throws
(`opened` false), and `acceptor_` keeps its value. Otherwise the new acceptor replaces the old
one, whose destruction aborts its waiting accepts, and `set_option` may still fail
(`optionSet` false), leaving the new acceptor in place. -/
def prepare (opened optionSet : Bool) (l : HttpListenerImpl) : Bool × HttpListenerImpl :=
  if !opened then (false, l)
  else
    let l := match l.acceptor with
      | some old => abortOn old.id l
      | none => l
    let l := { l with acceptor := some ⟨l.acceptors, true⟩, acceptors := l.acceptors + 1 }
    if !optionSet then (false, l) else (true, l)

def start (l : HttpListenerImpl) : Except Failure (Bool × HttpListenerImpl) :=
  match l.acceptor with
  | none => throw .assertFailed
  | some a => if !a.isOpen then pure (false, l) else pure (true, acceptOnce a l)

/-- `stop()`: `cancel()` aborts the waiting accepts of the acceptor. -/
def stop (l : HttpListenerImpl) : HttpListenerImpl :=
  match l.acceptor with
  | some a => abortOn a.id l
  | none => l

def setHandlerForNewSession (l : HttpListenerImpl) : HttpListenerImpl :=
  { l with onNewSession := true }

@[simp] theorem acceptOnce_starts (acceptor : Acceptor) (l : HttpListenerImpl) :
    (acceptOnce acceptor l).starts = l.starts := rfl

@[simp] theorem abortOn_starts (id : Nat) (l : HttpListenerImpl) : (abortOn id l).starts = l.starts :=
  rfl

@[simp] theorem prepare_starts (opened optionSet : Bool) (l : HttpListenerImpl) :
    (prepare opened optionSet l).2.starts = l.starts := by
  unfold prepare
  split
  · rfl
  · dsimp only
    split <;> split <;> rfl

@[simp] theorem stop_starts (l : HttpListenerImpl) : (stop l).starts = l.starts := by
  unfold stop
  split <;> rfl

/-- The body of `on_accept` once `wp.lock()` has succeeded, for an accept that completed
without an error exactly when `ok`. -/
def onAccept (ok : Bool) (l : HttpListenerImpl) : Except Failure HttpListenerImpl := do
  let l ← if ok then
      match l.newSession with
      | none => throw .nullDereference
      | some s => pure { l with
          handed := if l.onNewSession then l.handed ++ [s] else l.handed
          started := l.started ++ [s] }
    else pure l
  match l.acceptor with
  | none => throw .nullDereference
  | some a => pure (if a.isOpen then acceptOnce a l else l)

end HttpListenerImpl

/-- What can happen to a listener: a call of one of its methods, or an action of asio. -/
inductive Event where
  | prepare (opened optionSet : Bool)
  | start
  | stop
  | setHandlerForNewSession
  /-- The waiting accept into session `s` completes: a connection arrives (`ok`) and asio
  writes it into the session's socket, or an error. -/
  | complete (s : Nat) (ok : Bool)
  /-- `io_context` runs the handler of the completed accept into session `s`. -/
  | dispatch (s : Nat)
  /-- The last `shared_ptr` to the listener goes; the destructor destroys the acceptor. -/
  | release
  deriving DecidableEq

namespace HttpListenerImpl

/-- One event. Once the listener is released its methods are no longer called. -/
def step (l : HttpListenerImpl) : Event → Except Failure HttpListenerImpl
  | .prepare opened optionSet => pure (if l.alive then (prepare opened optionSet l).2 else l)
  | .start =>
    if l.alive then do
      let (r, l) ← start l
      pure (if r then { l with starts := l.starts + 1 } else l)
    else pure l
  | .stop => pure (if l.alive then stop l else l)
  | .setHandlerForNewSession => pure (if l.alive then setHandlerForNewSession l else l)
  | .complete s ok =>
    if l.pending.any fun a => a.session = s ∧ a.result = none then
      if ok && l.freed s then throw .useAfterFree
      else pure { l with
        pending := l.pending.map (Accept.complete s ok)
        connected := if ok then l.connected ++ [s] else l.connected }
    else pure l
  | .dispatch s =>
    match l.pending.find? fun a => a.session = s with
    | some ⟨_, _, some ok⟩ =>
      let l := { l with pending := l.pending.filter fun a => a.session ≠ s }
      if l.alive then onAccept ok l else pure l
    | _ => pure l
  | .release =>
    pure (if l.alive then
      { (match l.acceptor with
          | some a => abortOn a.id l
          | none => l) with alive := false }
    else l)

def run (l : HttpListenerImpl) (events : List Event) : Except Failure HttpListenerImpl :=
  events.foldlM step l

theorem run_cons (l : HttpListenerImpl) (e : Event) (events : List Event) :
    run l (e :: events) = (step l e >>= fun l => run l events) := rfl

/-- The states some run from the constructed listener reaches. -/
def Reachable (l : HttpListenerImpl) : Prop := ∃ events, run init events = .ok l

/-! ## The accepts in flight -/

theorem Accept.abort_spec (id : Nat) (a : Accept) :
    (a.abort id).session = a.session ∧ ((a.abort id).result = some true ↔ a.result = some true) := by
  unfold Accept.abort
  split <;> simp_all

theorem Accept.complete_false_spec (s : Nat) (a : Accept) :
    (a.complete s false).session = a.session ∧
      ((a.complete s false).result = some true ↔ a.result = some true) := by
  unfold Accept.complete
  split <;> simp_all

/-- A change of the accepts that keeps their sessions and which of them succeeded. -/
theorem map_session_map {f : Accept → Accept} (ps : List Accept)
    (hf : ∀ a, (f a).session = a.session) : (ps.map f).map Accept.session = ps.map Accept.session := by
  rw [List.map_map]
  exact List.map_congr_left fun a _ => hf a

theorem successes_map {f : Accept → Accept} (ps : List Accept)
    (hf : ∀ a, (f a).session = a.session ∧ ((f a).result = some true ↔ a.result = some true)) :
    successes (ps.map f) = successes ps := by
  rw [successes, successes, List.filterMap_map]
  refine List.filterMap_congr fun a _ => ?_
  by_cases ha : a.result = some true <;> simp [ha, (hf a).1, (hf a).2]

/-- In a list of accepts with increasing sessions, the handler of one removes exactly it. -/
theorem length_filter_session {ps : List Accept} {a : Accept}
    (hs : (ps.map Accept.session).Pairwise (· < ·)) (ha : a ∈ ps) :
    (ps.filter fun b => b.session ≠ a.session).length + 1 = ps.length := by
  induction ps with
  | nil => cases ha
  | cons b ps ih =>
    simp only [List.map_cons, List.pairwise_cons, List.mem_map, forall_exists_index, and_imp,
      forall_apply_eq_imp_iff₂] at hs
    rcases List.mem_cons.mp ha with rfl | ha
    · have hkeep : (ps.filter fun c => c.session ≠ a.session) = ps :=
        List.filter_eq_self.mpr fun c hc => by simpa using (hs.1 c hc).ne'
      rw [List.filter_cons, if_neg (by simp), hkeep]
      rfl
    · have hne : b.session ≠ a.session := (hs.1 a ha).ne
      rw [List.filter_cons, if_pos (by simpa using hne), List.length_cons, ih hs.2 ha]
      rfl

theorem eq_singleton_of_mem {ps : List Accept} {a : Accept} (hlen : ps.length ≤ 1) (ha : a ∈ ps) :
    ps = [a] := by
  rcases ps with _ | ⟨b, _ | ⟨c, ps⟩⟩
  · cases ha
  · rw [List.mem_singleton.mp ha]
  · simp at hlen

/-- The sessions of the accepts in flight increase and lie below `new_session_`. -/
structure Shape (pending : List Accept) (newSession : Option Nat) (sessions : Nat) : Prop where
  belowNewSession : ∀ s ∈ pending.map Accept.session, ∃ n, newSession = some n ∧ s ≤ n
  belowSessions : ∀ s ∈ pending.map Accept.session, s < sessions
  sorted : (pending.map Accept.session).Pairwise (· < ·)

/-- Accepts leave, in any order, or change how they completed. -/
theorem Shape.sublist {ps qs : List Accept} {n : Option Nat} {k : Nat} (h : Shape ps n k)
    (hqs : (qs.map Accept.session).Sublist (ps.map Accept.session)) : Shape qs n k :=
  ⟨fun s hs => h.belowNewSession s (hqs.subset hs), fun s hs => h.belowSessions s (hqs.subset hs),
    h.sorted.sublist hqs⟩

/-- `acceptOnce()` adds an accept into a new session. -/
theorem Shape.append {ps : List Accept} {n : Option Nat} {k : Nat} (h : Shape ps n k) (id : Nat) :
    Shape (ps ++ [Accept.mk id k none]) (some k) (k + 1) := by
  have hmem : ∀ s, s ∈ (ps ++ [Accept.mk id k none]).map Accept.session ↔
      s ∈ ps.map Accept.session ∨ s = k := by
    simp
  refine ⟨fun s hs => ⟨k, rfl, ?_⟩, fun s hs => ?_, ?_⟩
  · rcases (hmem s).mp hs with hs | rfl
    exacts [(h.belowSessions s hs).le, le_rfl]
  · rcases (hmem s).mp hs with hs | rfl
    exacts [(h.belowSessions s hs).trans (Nat.lt_succ_self k), Nat.lt_succ_self s]
  · rw [List.map_append]
    exact List.pairwise_append.mpr ⟨h.sorted, List.pairwise_singleton _ _,
      fun s hs t ht => (List.mem_singleton.mp ht) ▸ h.belowSessions s hs⟩

/-- A waiting accept that a change of the accepts leaves waiting is unchanged. -/
theorem Accept.abort_of_waiting {id : Nat} {a : Accept} (h : (a.abort id).result = none) :
    a.abort id = a := by
  unfold Accept.abort at *
  split <;> simp_all

theorem Accept.complete_of_waiting {s : Nat} {ok : Bool} {a : Accept}
    (h : (a.complete s ok).result = none) : a.complete s ok = a := by
  unfold Accept.complete at *
  split <;> simp_all

theorem mem_of_waiting {f : Accept → Accept} (hf : ∀ a, (f a).result = none → f a = a)
    {ps : List Accept} : ∀ a ∈ ps.map f, a.result = none → a ∈ ps := by
  intro a ha hr
  obtain ⟨b, hb, rfl⟩ := List.mem_map.mp ha
  rw [hf b hr]
  exact hb

/-! ## The invariant -/

/-- What every reachable state satisfies. -/
structure Inv (l : HttpListenerImpl) : Prop where
  acceptorOpen : ∀ a, l.acceptor = some a → a.isOpen
  acceptorOfPending : l.pending ≠ [] → l.acceptor.isSome
  shape : Shape l.pending l.newSession l.sessions
  loops : l.alive → l.pending.length = l.starts
  handedSuffix : l.handed.IsSuffix l.started
  handedEmpty : l.onNewSession = false → l.handed = []
  single : l.alive → l.starts ≤ 1 →
    (∀ s ∈ l.pending.map Accept.session, l.newSession = some s) ∧
      l.started ++ successes l.pending = l.connected
  /-- An accept waits only while the listener lives, on the current acceptor. -/
  waiting : ∀ a ∈ l.pending, a.result = none →
    l.alive ∧ l.acceptor.map Acceptor.id = some a.acceptor
  /-- `new_session_` is the last session made; a started session is older. -/
  newSessionBelow : ∀ n, l.newSession = some n → n < l.sessions
  startedBelow : ∀ s ∈ l.started, s < l.sessions ∧ l.newSession ≠ some s

variable {l l' : HttpListenerImpl}

theorem init_inv : Inv init := by
  refine ⟨?_, ?_, ⟨?_, ?_, ?_⟩, ?_, ?_, ?_, ?_, ?_, ?_, ?_⟩ <;> simp [init, successes]

/-- A change of the accepts that keeps their sessions and leaves no new accept waiting, and of
the sessions connected. -/
theorem Inv.of_pending (h : Inv l) {ps : List Accept} {connected : List Nat}
    (hs : ps.map Accept.session = l.pending.map Accept.session)
    (hw : ∀ a ∈ ps, a.result = none → a ∈ l.pending)
    (hc : l.alive → l.starts ≤ 1 → l.started ++ successes ps = connected) :
    Inv { l with pending := ps, connected := connected } where
  acceptorOpen := h.acceptorOpen
  acceptorOfPending hne :=
    h.acceptorOfPending fun he => hne (List.map_eq_nil_iff.mp (hs.trans (by rw [he]; rfl)))
  shape := h.shape.sublist (hs ▸ List.Sublist.refl _)
  loops halive := by rw [← h.loops halive, ← List.length_map ps Accept.session, hs, List.length_map]
  handedSuffix := h.handedSuffix
  handedEmpty := h.handedEmpty
  single halive hone := ⟨fun s hsm => (h.single halive hone).1 s (hs ▸ hsm), hc halive hone⟩
  waiting a ha hr := h.waiting a (hw a ha hr) hr
  newSessionBelow := h.newSessionBelow
  startedBelow := h.startedBelow

theorem Inv.abortOn (h : Inv l) (id : Nat) : Inv (abortOn id l) :=
  h.of_pending (map_session_map _ fun a => (Accept.abort_spec id a).1)
    (mem_of_waiting fun _ => Accept.abort_of_waiting) fun halive hone => by
      rw [successes_map _ (Accept.abort_spec id)]
      exact (h.single halive hone).2

theorem Inv.abortCurrent (h : Inv l) :
    Inv (match l.acceptor with
      | some a => HttpListenerImpl.abortOn a.id l
      | none => l) := by
  split
  exacts [h.abortOn _, h]

/-- Cancelling or destroying the acceptor completes every waiting accept. -/
theorem Inv.abortCurrent_waiting (h : Inv l) :
    ∀ a ∈ (match l.acceptor with
      | some b => HttpListenerImpl.abortOn b.id l
      | none => l).pending, a.result ≠ none := by
  split
  · rename_i b hb
    intro a ha hr
    obtain ⟨c, hc, rfl⟩ := List.mem_map.mp ha
    have hcr : c.result = none := (congrArg Accept.result (Accept.abort_of_waiting hr)).symm.trans hr
    have hid := (h.waiting c hc hcr).2
    rw [hb, Option.map_some', Option.some.injEq] at hid
    simp [Accept.abort, hid, hcr] at hr
  · rename_i hb
    intro a ha hr
    have hid := (h.waiting a ha hr).2
    rw [hb] at hid
    cases hid

theorem Inv.prepare (h : Inv l) (opened optionSet : Bool) :
    Inv (HttpListenerImpl.prepare opened optionSet l).2 := by
  have h' := h.abortCurrent
  unfold HttpListenerImpl.prepare
  cases opened
  · exact h
  · cases optionSet <;>
    exact { h' with
      acceptorOpen := fun a ha => by cases ha; rfl
      acceptorOfPending := fun _ => rfl
      waiting := fun a ha hr => absurd hr (h.abortCurrent_waiting a ha) }

/-- `acceptOnce()` on the open acceptor of a live listener that has one accept in flight fewer
than successful calls of `start()`. -/
theorem acceptOnce_inv {b : Acceptor} (hb : l.acceptor = some b)
    (hopen : ∀ a, l.acceptor = some a → a.isOpen) (halive : l.alive)
    (hshape : Shape l.pending l.newSession l.sessions) (hloops : l.pending.length + 1 = l.starts)
    (hhanded : l.handed.IsSuffix l.started) (hempty : l.onNewSession = false → l.handed = [])
    (hsingle : l.starts ≤ 1 → l.pending = [] ∧ l.started = l.connected)
    (hwaiting : ∀ a ∈ l.pending, a.result = none → l.acceptor.map Acceptor.id = some a.acceptor)
    (hstarted : ∀ s ∈ l.started, s < l.sessions) : Inv (acceptOnce b l) where
  acceptorOpen := hopen
  acceptorOfPending _ := by simp [acceptOnce, hb]
  shape := hshape.append b.id
  loops _ := by simp [acceptOnce, hloops]
  handedSuffix := hhanded
  handedEmpty := hempty
  single _ hone := by
    obtain ⟨h0, hc⟩ := hsingle hone
    simp [acceptOnce, h0, successes, hc]
  waiting a ha hr := by
    rcases List.mem_append.mp ha with ha | ha
    · exact ⟨halive, hwaiting a ha hr⟩
    · rw [List.mem_singleton.mp ha]
      exact ⟨halive, by simp [acceptOnce, hb]⟩
  newSessionBelow n hn := by
    cases hn
    exact Nat.lt_succ_self _
  startedBelow s hs := by
    have := hstarted s hs
    simp only [acceptOnce, ne_eq, Option.some.injEq]
    omega

theorem Inv.start (h : Inv l) (halive : l.alive) {a : Acceptor} (ha : l.acceptor = some a) :
    Inv { acceptOnce a l with starts := l.starts + 1 } :=
  acceptOnce_inv (l := { l with starts := l.starts + 1 }) ha h.acceptorOpen halive h.shape
    (by simp [h.loops halive]) h.handedSuffix h.handedEmpty (fun hone => by
      have hz : l.starts = 0 := by simp only at hone; omega
      have h0 : l.pending = [] := List.length_eq_zero.mp ((h.loops halive).trans hz)
      have hc := (h.single halive (by omega)).2
      simp only [h0, successes, List.filterMap_nil, List.append_nil] at hc
      exact ⟨h0, hc⟩)
    (fun a ha hr => (h.waiting a ha hr).2) fun s hs => (h.startedBelow s hs).1

theorem Inv.complete (h : Inv l) {s : Nat} {ok : Bool}
    (hany : (l.pending.any fun a => a.session = s ∧ a.result = none) = true) :
    Inv { l with
      pending := l.pending.map (Accept.complete s ok)
      connected := if ok then l.connected ++ [s] else l.connected } := by
  have hw : ∀ a ∈ l.pending.map (Accept.complete s ok), a.result = none → a ∈ l.pending :=
    mem_of_waiting fun _ => Accept.complete_of_waiting
  cases ok
  · exact h.of_pending (map_session_map _ fun a => (Accept.complete_false_spec s a).1) hw
      fun halive hone => by
        rw [successes_map _ (Accept.complete_false_spec s)]
        exact (h.single halive hone).2
  · have hs : (l.pending.map (Accept.complete s true)).map Accept.session =
        l.pending.map Accept.session := map_session_map _ fun a => Accept.complete_session s true a
    obtain ⟨a, ha, has⟩ := List.any_eq_true.mp hany
    simp only [decide_eq_true_eq] at has
    refine h.of_pending hs hw fun halive hone => ?_
    have hpa := eq_singleton_of_mem ((h.loops halive).trans_le hone) ha
    obtain ⟨h₁, h₂⟩ := h.single halive hone
    simp only [hpa, List.map_cons, List.map_nil, List.mem_singleton, forall_eq] at h₁ h₂ ⊢
    simp only [successes, has, List.filterMap_cons, List.filterMap_nil, Accept.complete] at h₂ ⊢
    simp [← h₂, h₁, has.1]

theorem Inv.setHandlerForNewSession (h : Inv l) : Inv (setHandlerForNewSession l) :=
  { h with handedEmpty := fun hf => by cases hf }

theorem Inv.release (h : Inv l) :
    Inv { (match l.acceptor with
      | some a => HttpListenerImpl.abortOn a.id l
      | none => l) with alive := false } :=
  { h.abortCurrent with
    loops := fun hf => by cases hf
    single := fun hf => by cases hf
    waiting := fun a ha hr => absurd hr (h.abortCurrent_waiting a ha) }

/-- `on_accept` for a listener whose `acceptor_` and `new_session_` are set. -/
theorem onAccept_eq {ok : Bool} {n : Nat} {b : Acceptor} (hn : l.newSession = some n)
    (hb : l.acceptor = some b) (hopen : b.isOpen) :
    onAccept ok l = .ok (acceptOnce b (if ok then { l with
      handed := if l.onNewSession then l.handed ++ [n] else l.handed
      started := l.started ++ [n] } else l)) := by
  cases ok <;> simp [onAccept, hn, hb, hopen] <;> rfl

theorem step_start (l : HttpListenerImpl) : step l .start =
    if l.alive then
      match l.acceptor with
      | none => .error .assertFailed
      | some a => .ok (if a.isOpen then { acceptOnce a l with starts := l.starts + 1 } else l)
    else .ok l := by
  obtain ⟨acceptor, onNewSession, newSession, alive, pending, acceptors, sessions, connected,
    handed, started, starts⟩ := l
  cases alive <;> rcases acceptor with _ | ⟨id, _ | _⟩ <;> rfl

/-- The handler of an accept of `pending`, on the listener without that accept: it finds
`new_session_` and `acceptor_` set, and ends normally. -/
theorem Inv.onAccept_of_mem (h : Inv l) {a : Accept} (ha : a ∈ l.pending) {ok : Bool}
    {l₁ : HttpListenerImpl} {r : Except Failure HttpListenerImpl} (hr : onAccept ok l₁ = r)
    (hn : l₁.newSession = l.newSession) (hb : l₁.acceptor = l.acceptor) :
    ∃ n b, l.newSession = some n ∧ l.acceptor = some b ∧ r = .ok (acceptOnce b (if ok then
      { l₁ with
        handed := if l₁.onNewSession then l₁.handed ++ [n] else l₁.handed
        started := l₁.started ++ [n] } else l₁)) := by
  obtain ⟨n, hn', -⟩ := h.shape.belowNewSession a.session (List.mem_map_of_mem _ ha)
  obtain ⟨b, hb'⟩ := Option.isSome_iff_exists.mp (h.acceptorOfPending (List.ne_nil_of_mem ha))
  exact ⟨n, b, hn', hb', hr.symm.trans (onAccept_eq (hn.trans hn') (hb.trans hb') (h.acceptorOpen b hb'))⟩

/-- The handler of a completed accept: the accept leaves, the session is started when it
took a connection, and the next accept is issued. -/
theorem Inv.dispatch (h : Inv l) {s : Nat} (hstep : step l (.dispatch s) = .ok l') : Inv l' := by
  simp only [step] at hstep
  split at hstep
  · rename_i acceptor session ok hfind
    have ha := List.mem_of_find?_eq_some hfind
    obtain rfl : session = s := by simpa using List.find?_some hfind
    have hsub : ((l.pending.filter fun a => a.session ≠ session).map Accept.session).Sublist
        (l.pending.map Accept.session) := (List.filter_sublist _).map _
    have hshape := h.shape.sublist hsub
    have hwaiting : ∀ a ∈ l.pending.filter (fun a => a.session ≠ session), a.result = none →
        l.alive ∧ l.acceptor.map Acceptor.id = some a.acceptor :=
      fun a ha hr => h.waiting a (List.mem_of_mem_filter ha) hr
    split at hstep
    · rename_i halive
      obtain ⟨n, b, hn, hb, hl'⟩ := h.onAccept_of_mem ha hstep rfl rfl
      cases hl'
      have hloops := (length_filter_session h.shape.sorted ha).trans (h.loops halive)
      have hsingle : l.starts ≤ 1 → l.pending = [⟨acceptor, session, some ok⟩] :=
        fun hone => eq_singleton_of_mem ((h.loops halive).trans_le hone) ha
      cases ok
      · refine acceptOnce_inv hb h.acceptorOpen halive hshape hloops h.handedSuffix h.handedEmpty
          (fun hone => ?_) (fun a ha hr => (hwaiting a ha hr).2) fun s hs => (h.startedBelow s hs).1
        obtain ⟨-, h₂⟩ := h.single halive hone
        rw [hsingle hone] at h₂ ⊢
        simpa [successes] using h₂
      · refine acceptOnce_inv hb h.acceptorOpen halive hshape hloops ?_ ?_ (fun hone => ?_)
          (fun a ha hr => (hwaiting a ha hr).2) fun s hs => ?_
        · cases hon : l.onNewSession
          · simp [h.handedEmpty hon]
          · obtain ⟨t, ht⟩ := h.handedSuffix
            exact ⟨t, by simp [hon, ← ht]⟩
        · intro hon
          have hon : l.onNewSession = false := hon
          simp [hon, h.handedEmpty hon]
        · obtain ⟨h₁, h₂⟩ := h.single halive hone
          rw [hsingle hone] at h₁ h₂ ⊢
          simp only [List.map_cons, List.map_nil, List.mem_singleton, forall_eq, hn,
            Option.some.injEq] at h₁
          subst h₁
          simpa [successes] using h₂
        · rcases List.mem_append.mp hs with hs | hs
          · exact (h.startedBelow s hs).1
          · rw [List.mem_singleton.mp hs]
            exact h.newSessionBelow n hn
    · cases hstep
      exact ⟨h.acceptorOpen, fun hne => h.acceptorOfPending fun he => hne (by simp [he]), hshape,
        fun halive => absurd halive ‹_›, h.handedSuffix, h.handedEmpty,
        fun halive => absurd halive ‹_›, hwaiting, h.newSessionBelow, h.startedBelow⟩
  · cases hstep
    exact h

/-- Every event keeps the invariant. -/
theorem Inv.step (h : Inv l) {e : Event} (hstep : HttpListenerImpl.step l e = .ok l') :
    Inv l' := by
  cases e with
  | prepare opened optionSet =>
    cases hstep
    split
    exacts [h.prepare _ _, h]
  | start =>
    rw [step_start] at hstep
    split at hstep
    · rename_i halive
      split at hstep
      · cases hstep
      · rename_i a ha
        rw [if_pos (h.acceptorOpen a ha)] at hstep
        cases hstep
        exact h.start halive ha
    · cases hstep
      exact h
  | stop =>
    cases hstep
    split
    exacts [h.abortCurrent, h]
  | setHandlerForNewSession =>
    cases hstep
    split
    exacts [h.setHandlerForNewSession, h]
  | complete s ok =>
    simp only [HttpListenerImpl.step] at hstep
    split at hstep
    · rename_i hany
      split at hstep
      · cases hstep
      · cases hstep
        exact h.complete hany
    · cases hstep
      exact h
  | dispatch s => exact h.dispatch hstep
  | release =>
    cases hstep
    split
    exacts [h.release, h]

/-- Why a step fails: `BOOST_ASSERT(acceptor_)` in `start()`, or a connection written into a
session that `acceptOnce()` of another accept loop has freed. -/
def FailureCause (l : HttpListenerImpl) (e : Event) (f : Failure) : Prop :=
  (f = .assertFailed ∧ e = .start ∧ l.acceptor = none) ∨
    (f = .useAfterFree ∧ 2 ≤ l.starts ∧ ∃ s, e = .complete s true ∧ l.freed s)

/-- A step fails only at the assertion of `start()`, or by a connection into a freed session,
which needs two accept loops: with one, every waiting accept fills `new_session_`. -/
theorem Inv.step_error_cause (h : Inv l) {e : Event} {f : Failure}
    (hstep : HttpListenerImpl.step l e = .error f) : FailureCause l e f := by
  cases e with
  | start =>
    rw [step_start] at hstep
    split at hstep
    · split at hstep
      · rename_i hacc
        cases hstep
        exact .inl ⟨rfl, rfl, hacc⟩
      · cases hstep
    · cases hstep
  | dispatch s =>
    simp only [HttpListenerImpl.step] at hstep
    split at hstep
    · rename_i acceptor session ok hfind
      have ha := List.mem_of_find?_eq_some hfind
      obtain rfl : session = s := by simpa using List.find?_some hfind
      split at hstep
      · obtain ⟨_, _, -, -, hf⟩ := h.onAccept_of_mem ha hstep rfl rfl
        cases hf
      · cases hstep
    · cases hstep
  | complete s ok =>
    simp only [HttpListenerImpl.step] at hstep
    split at hstep
    · rename_i hany
      split at hstep
      · rename_i hfree
        cases hstep
        obtain ⟨rfl, hfree⟩ := Bool.and_eq_true_iff.mp hfree
        refine .inr ⟨rfl, Nat.not_lt.mp fun hlt => ?_, s, rfl, hfree⟩
        obtain ⟨a, ha, has⟩ := List.any_eq_true.mp hany
        simp only [decide_eq_true_eq] at has
        have hn := (h.single (h.waiting a ha has.2).1 (by omega)).1 a.session
          (List.mem_map_of_mem _ ha)
        simp [freed, ← has.1, hn] at hfree
      · cases hstep
    · cases hstep
  | _ => cases hstep

theorem run_inv : ∀ {l l' : HttpListenerImpl} {events : List Event},
    Inv l → run l events = .ok l' → Inv l'
  | _, _, [], h, hrun => by
    cases hrun
    exact h
  | l, _, e :: events, h, hrun => by
    rw [run_cons] at hrun
    cases hstep : step l e with
    | error f =>
      rw [hstep] at hrun
      cases hrun
    | ok l₁ =>
      rw [hstep] at hrun
      exact run_inv (h.step hstep) hrun

theorem Reachable.inv {l : HttpListenerImpl} (hl : Reachable l) : Inv l :=
  let ⟨_, hrun⟩ := hl
  run_inv init_inv hrun

theorem Reachable.step {e : Event} (hl : Reachable l) (hstep : step l e = .ok l') :
    Reachable l' :=
  let ⟨events, hrun⟩ := hl
  ⟨events ++ [e], by
    rw [run, List.foldlM_append, ← run, hrun]
    show run l [e] = _
    simp [run, hstep]⟩

theorem onAccept_starts {ok : Bool} (h : onAccept ok l = .ok l') : l'.starts = l.starts := by
  unfold onAccept at h
  cases ok <;> cases hn : l.newSession <;> cases ha : l.acceptor <;> simp [hn, ha] at h <;>
    cases h <;> split <;> rfl

theorem step_start_starts (hstep : step l .start = .ok l') : l'.starts ≤ l.starts + 1 := by
  rw [step_start] at hstep
  split at hstep
  · split at hstep
    · cases hstep
    · cases hstep
      split <;> simp
  · cases hstep
    omega

/-- Only `start()` counts: every other event keeps `starts`. -/
theorem step_starts {e : Event} (hstep : step l e = .ok l') (he : e ≠ .start) :
    l'.starts = l.starts := by
  cases e with
  | start => exact absurd rfl he
  | complete s ok =>
    simp only [step] at hstep
    split at hstep
    · split at hstep <;> cases hstep
      rfl
    · cases hstep
      rfl
  | dispatch s =>
    simp only [step] at hstep
    split at hstep
    · split at hstep
      · have hs := onAccept_starts hstep
        exact hs
      · cases hstep
        rfl
    · cases hstep
      rfl
  | release =>
    cases hstep
    repeat' split
    all_goals rfl
  | _ =>
    cases hstep
    split <;> simp [setHandlerForNewSession]

/-! ## What every run gives -/

/-- A failed run fails at one of its events, from the state the events before it reach. -/
theorem run_error : ∀ {l : HttpListenerImpl} {events : List Event} {f : Failure},
    run l events = .error f →
      ∃ pre e post l', events = pre ++ e :: post ∧ run l pre = .ok l' ∧ step l' e = .error f
  | _, [], _, hrun => by cases hrun
  | l, e :: events, f, hrun => by
    rw [run_cons] at hrun
    cases hstep : step l e with
    | error f' =>
      rw [hstep] at hrun
      cases hrun
      exact ⟨[], e, events, l, rfl, rfl, hstep⟩
    | ok l₁ =>
      rw [hstep] at hrun
      obtain ⟨pre, e', post, l', rfl, hpre, he'⟩ := run_error hrun
      exact ⟨e :: pre, e', post, l', rfl, by rw [run_cons, hstep]; exact hpre, he'⟩

/-- While the listener lives, one accept waits for each call of `start()` that returned true:
no accept loop ends, `stop()` included, and none is added but by `start()`. -/
theorem pending_length_eq_starts (hl : Reachable l) (halive : l.alive) :
    l.pending.length = l.starts :=
  hl.inv.loops halive

/-- `stop()` aborts the waiting accept, and its handler issues the next one. -/
theorem stop_keeps_one_accept :
    ∃ l, run init [.prepare true true, .start, .stop, .dispatch 0] = .ok l ∧ l.alive ∧
      l.pending.length = l.starts ∧ l.starts = 1 :=
  ⟨_, rfl, rfl, pending_length_eq_starts ⟨[.prepare true true, .start, .stop, .dispatch 0], rfl⟩
    rfl, rfl⟩

/-- With one accept loop, the sessions started are those whose socket took a connection and
whose handler has run, in order; the others wait in `pending`. -/
theorem started_eq_connected (hl : Reachable l) (halive : l.alive) (hone : l.starts ≤ 1) :
    l.started ++ successes l.pending = l.connected :=
  (hl.inv.single halive hone).2

theorem started_eq_connected_after_two :
    ∃ l, run init [.prepare true true, .setHandlerForNewSession, .start, .complete 0 true,
        .dispatch 0, .complete 1 true] = .ok l ∧ l.alive ∧ l.starts ≤ 1 ∧
      l.started ++ successes l.pending = l.connected ∧ l.connected = [0, 1] :=
  ⟨_, rfl, rfl, by decide, started_eq_connected ⟨[.prepare true true, .setHandlerForNewSession,
    .start, .complete 0 true, .dispatch 0, .complete 1 true], rfl⟩ rfl (by decide), rfl⟩

/-- The sessions given to `on_new_session_` are the last sessions started, and none is given
before it is set. -/
theorem handed_suffix_started (hl : Reachable l) :
    l.handed.IsSuffix l.started ∧ (l.onNewSession = false → l.handed = []) :=
  ⟨hl.inv.handedSuffix, hl.inv.handedEmpty⟩

theorem handed_suffix_started_late_handler :
    ∃ l, run init [.prepare true true, .start, .complete 0 true, .dispatch 0,
        .setHandlerForNewSession, .complete 1 true, .dispatch 1] = .ok l ∧
      (l.handed.IsSuffix l.started ∧ (l.onNewSession = false → l.handed = [])) ∧
      l.started = [0, 1] ∧ l.handed = [1] :=
  ⟨_, rfl, handed_suffix_started ⟨[.prepare true true, .start, .complete 0 true, .dispatch 0,
    .setHandlerForNewSession, .complete 1 true, .dispatch 1], rfl⟩, rfl, rfl⟩

/-- A second `start()` while the first accept loop waits: `acceptOnce()` moves `new_session_`,
the only owner of the session that accept fills, to a new session, so the session is destroyed,
and a connection that then arrives is written into it. -/
theorem second_start_frees_waiting_session {a : Accept} (hl : Reachable l) (hone : l.starts = 1)
    (ha : a ∈ l.pending) (hw : a.result = none) :
    ∃ l', step l .start = .ok l' ∧ l'.starts = 2 ∧ l'.freed a.session ∧
      step l' (.complete a.session true) = .error .useAfterFree := by
  have h := hl.inv
  have halive := (h.waiting a ha hw).1
  have hmem := List.mem_map_of_mem Accept.session ha
  obtain ⟨b, hb⟩ := Option.isSome_iff_exists.mp (h.acceptorOfPending (List.ne_nil_of_mem ha))
  have hlt := h.shape.belowSessions a.session hmem
  have hn := (h.single halive hone.le).1 a.session hmem
  have hfree : ({ acceptOnce b l with starts := l.starts + 1 } : HttpListenerImpl).freed
      a.session := by
    simp only [freed, acceptOnce, ne_eq, Option.some.injEq, decide_eq_true_eq]
    exact ⟨by omega, by omega, fun hs => (h.startedBelow _ hs).2 hn⟩
  have hany : ((acceptOnce b l).pending.any
      fun c => c.session = a.session ∧ c.result = none) = true :=
    List.any_eq_true.mpr ⟨a, List.mem_append_left _ ha, by simp [hw]⟩
  refine ⟨_, by simp [step_start, halive, hb, h.acceptorOpen b hb], by simp [hone], hfree, ?_⟩
  simp only [HttpListenerImpl.step]
  rw [if_pos hany, if_pos (by simpa using hfree)]
  rfl

/-- `start()` twice after `prepare()`: session 0, on which the first accept waits, is freed. -/
theorem start_twice_frees_first_session :
    ∃ l, run init [.prepare true true, .start] = .ok l ∧
      ∃ l', step l .start = .ok l' ∧ l'.starts = 2 ∧ l'.freed 0 ∧
        step l' (.complete 0 true) = .error .useAfterFree :=
  ⟨_, rfl, second_start_frees_waiting_session (a := ⟨0, 0, none⟩) ⟨[.prepare true true, .start], rfl⟩
    rfl (List.mem_singleton_self _) rfl⟩

end HttpListenerImpl

end Kagome.Api
