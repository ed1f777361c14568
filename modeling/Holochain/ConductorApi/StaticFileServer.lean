import Holochain.CoreTypes.Entry

/-!
The UI static file server of the conductor (`conductor_api/src/static_file_server.rs`).

`StaticServer::start` makes a `std::sync::mpsc` channel, keeps its `Sender` as the shutdown
signal, and spawns a thread that binds the address, serves, and waits on the `Receiver`.
`StaticServer::stop` sends on the signal. The calls and the steps of the serving threads
interleave in any order: a thread's binding may panic, and its `recv` returns on a message or
once every sender of its channel is dropped.

Proved here, for every interleaving from `StaticServer::from_configs`:

* `ServerSystem.reachable_inv`: `running` is set exactly when a signal is held, the signal is
  the channel of the newest thread, and a channel has a live sender exactly when it is the
  signal's;
* `stop_ok_iff`: `stop` succeeds exactly when the server runs and its newest thread has not
  ended; otherwise it fails with the text of the failure and changes nothing;
* `only_newest_thread_blocks`: every serving thread but the newest of a running server returns
  from `recv` at its next step;
* `stop_fails_after_thread_ended`: once the signalled thread has ended, `running` stays set and
  every `stop` fails, whatever else happens, until the next `start`;
* `stop_lets_every_thread_end`: after a `stop`, whether it went through or not, and any events
  but `start`, every thread can still end by its own steps.
-/

namespace Holochain

/-! ## Serving threads and their channels -/

/-- How far a serving thread has got: binding the address and building its runtime, serving
while it waits in `rx.recv()`, or ended. -/
inductive ThreadPhase where
  | starting
  | serving
  | finished
  deriving DecidableEq, Repr

/-- A thread spawned by `StaticServer::start`, with the `std::sync::mpsc` channel whose
`Receiver` it holds: the live `Sender`s of the channel and the messages sent on it and not yet
received. The receiver lives until the thread ends. -/
structure ServingThread where
  phase : ThreadPhase
  senders : Nat
  queued : Nat
  deriving DecidableEq, Repr

/-- What a serving thread does next. -/
inductive ThreadEvent where
  /-- `Server::bind` and `Runtime::new` succeed and the server is spawned on the runtime. -/
  | serve
  /-- `Server::bind` or `Runtime::new().unwrap()` panics, which ends the thread. -/
  | panic
  /-- `rx.recv()` returns and the thread ends, dropping its runtime. -/
  | recv
  deriving DecidableEq, Repr

/-- A thread's next step, when it can take it: `recv` returns once a message is queued, which it
takes, or once every sender is dropped. -/
def ServingThread.step (t : ServingThread) : ThreadEvent → Option ServingThread
  | .serve => if t.phase = .starting then some { t with phase := .serving } else none
  | .panic => if t.phase = .starting then some { t with phase := .finished } else none
  | .recv =>
    if t.phase = .serving then
      if 0 < t.queued then some { t with phase := .finished, queued := t.queued - 1 }
      else if t.senders = 0 then some { t with phase := .finished }
      else none
    else none

/-- `Sender::send(())` on the channel of thread `k`: queued while the receiver lives, else a
`SendError`, shown by its `Display`. An index with no thread names no channel; no reachable
state sends on one. -/
def sendShutdown (ts : List ServingThread) (k : Nat) : Except String (List ServingThread) :=
  match ts[k]? with
  | some t =>
    if t.phase = .finished then .error "sending on a closed channel"
    else .ok (ts.set k { t with queued := t.queued + 1 })
  | none => .error "sending on a closed channel"

/-- Dropping a `Sender` of the channel of thread `k`. -/
def dropSender (ts : List ServingThread) (k : Nat) : List ServingThread :=
  ts.modify (fun t => { t with senders := t.senders - 1 }) k

@[simp]
theorem length_dropSender (ts : List ServingThread) (k : Nat) :
    (dropSender ts k).length = ts.length :=
  List.length_modify _ _ _

/-! ## The server -/

/-- `StaticServer`, with the fields `start` and `stop` act on: the shutdown signal, a sender
named by the index of the thread that holds its receiver, and the running flag. -/
structure StaticServer where
  shutdownSignal : Option Nat
  running : Bool
  deriving DecidableEq, Repr

/-- `StaticServer::from_configs`. -/
def StaticServer.fromConfigs : StaticServer := ⟨none, false⟩

/-- `StaticServer::start`: a new channel, whose sender becomes the shutdown signal (dropping the
sender held before), and a thread spawned on its receiver. It always returns `Ok`. -/
def StaticServer.start (s : StaticServer) (ts : List ServingThread) :
    Except HolochainError Unit × StaticServer × List ServingThread :=
  let ts' := match s.shutdownSignal with
    | some old => dropSender ts old
    | none => ts
  (.ok (), { s with shutdownSignal := some ts.length, running := true },
    ts' ++ [⟨.starting, 1, 0⟩])

/-- `StaticServer::stop`: send on the shutdown signal, then clear `running` and the signal,
dropping its sender; a failed send, or no signal, is an error and changes nothing. The clone of
the sender that is sent through lives only during the call. -/
def StaticServer.stop (s : StaticServer) (ts : List ServingThread) :
    Except HolochainError Unit × StaticServer × List ServingThread :=
  match s.shutdownSignal with
  | some k =>
    match sendShutdown ts k with
    | .ok ts' => (.ok (), { s with running := false, shutdownSignal := none }, dropSender ts' k)
    | .error e => (.error (.errorGeneric e), s, ts)
  | none => (.error (.errorGeneric "server is already stopped"), s, ts)

/-! ## The server and its threads -/

/-- The server and every thread it has spawned; thread `k` holds the receiver of channel `k`. -/
structure ServerSystem where
  server : StaticServer
  threads : List ServingThread
  deriving DecidableEq, Repr

/-- What happens next: a call of `start` or `stop`, or a step of one serving thread. -/
inductive ServerEvent where
  | start
  | stop
  | thread (k : Nat) (e : ThreadEvent)
  deriving DecidableEq, Repr

/-- One event, when it can happen. -/
def ServerSystem.step (sys : ServerSystem) : ServerEvent → Option ServerSystem
  | .start => some ⟨(sys.server.start sys.threads).2.1, (sys.server.start sys.threads).2.2⟩
  | .stop => some ⟨(sys.server.stop sys.threads).2.1, (sys.server.stop sys.threads).2.2⟩
  | .thread k e => do
    let t ← sys.threads[k]?
    let t' ← t.step e
    pure { sys with threads := sys.threads.set k t' }

/-- A run of events, which stops at the first event that cannot happen. -/
def ServerSystem.run (sys : ServerSystem) (evs : List ServerEvent) : Option ServerSystem :=
  evs.foldlM ServerSystem.step sys

/-- The states of the server and its threads over every interleaving from `from_configs`. -/
inductive ServerSystem.Reachable : ServerSystem → Prop
  | init : Reachable ⟨.fromConfigs, []⟩
  | step {sys sys' : ServerSystem} (e : ServerEvent) :
      Reachable sys → sys.step e = some sys' → Reachable sys'

theorem ServerSystem.run_cons_eq_some {sys sys' : ServerSystem} {e : ServerEvent}
    {evs : List ServerEvent} :
    sys.run (e :: evs) = some sys' ↔ ∃ s₁, sys.step e = some s₁ ∧ s₁.run evs = some sys' := by
  simp [run, List.foldlM_cons, Option.bind_eq_some]

theorem ServerSystem.Reachable.run {sys : ServerSystem} (h : sys.Reachable) :
    ∀ {evs : List ServerEvent} {sys' : ServerSystem}, sys.run evs = some sys' → sys'.Reachable
  | [], _, hr => by cases hr; exact h
  | e :: _, _, hr =>
    have ⟨_, h₁, h₂⟩ := ServerSystem.run_cons_eq_some.mp hr
    Reachable.run (.step e h h₁) h₂

/-! ## What each step does -/

theorem ServingThread.step_senders {t t' : ServingThread} {e : ThreadEvent}
    (h : t.step e = some t') : t'.senders = t.senders := by
  cases e <;> simp only [step] at h <;> split_ifs at h <;> cases h <;> rfl

theorem ServingThread.step_of_finished {t : ServingThread} (h : t.phase = .finished)
    (e : ThreadEvent) : t.step e = none := by
  cases e <;> simp [step, h]

theorem sendShutdown_ok_iff {ts ts' : List ServingThread} {k : Nat} :
    sendShutdown ts k = .ok ts' ↔
      ∃ t, ts[k]? = some t ∧ t.phase ≠ .finished ∧ ts' = ts.set k { t with queued := t.queued + 1 } := by
  unfold sendShutdown
  cases ts[k]? with
  | none => simp
  | some t =>
    by_cases hf : t.phase = .finished
    · simp [hf]
    · simp [hf]; exact eq_comm

theorem sendShutdown_error_finished {ts : List ServingThread} {k : Nat} {e : String}
    {t : ServingThread} (h : sendShutdown ts k = .error e) (hk : ts[k]? = some t) :
    t.phase = .finished := by
  by_contra hf
  simp [sendShutdown, hk, hf] at h

theorem StaticServer.stop_cases (s : StaticServer) (ts : List ServingThread) :
    (s.stop ts).2 = (s, ts) ∧
      (∀ k t, s.shutdownSignal = some k → ts[k]? = some t → t.phase = .finished) ∨
    ∃ k t, s.shutdownSignal = some k ∧ ts[k]? = some t ∧
      (s.stop ts).2 = ({ s with running := false, shutdownSignal := none },
        dropSender (ts.set k { t with queued := t.queued + 1 }) k) := by
  rcases s with ⟨_ | k, running⟩
  · exact .inl ⟨rfl, nofun⟩
  · simp only [stop]
    cases hsend : sendShutdown ts k with
    | ok ts' =>
      obtain ⟨t, hk, -, rfl⟩ := sendShutdown_ok_iff.mp hsend
      exact .inr ⟨k, t, rfl, hk, rfl⟩
    | error e =>
      exact .inl ⟨rfl, fun j t hj hk => by cases hj; exact sendShutdown_error_finished hsend hk⟩

/-! ## Who holds a sender -/

/-- Channel `k` has a live sender exactly when the signal is `some k`. -/
def SendersMatch (signal : Option Nat) (ts : List ServingThread) : Prop :=
  ∀ k t, ts[k]? = some t → t.senders = if signal = some k then 1 else 0

theorem SendersMatch.set {signal : Option Nat} {ts : List ServingThread} {k : Nat}
    {t t' : ServingThread} (h : SendersMatch signal ts) (hk : ts[k]? = some t)
    (he : t'.senders = t.senders) : SendersMatch signal (ts.set k t') := by
  intro j u hj
  rw [List.getElem?_set] at hj
  by_cases hkj : k = j
  · subst hkj
    simp only [if_true, (List.getElem?_eq_some_iff.mp hk).1, Option.some.injEq] at hj
    rw [← hj, he, h k t hk]
  · rw [if_neg hkj] at hj
    exact h j u hj

theorem SendersMatch.drop {ts : List ServingThread} {k : Nat} (h : SendersMatch (some k) ts) :
    SendersMatch none (dropSender ts k) := by
  intro j u hj
  rw [dropSender, List.getElem?_modify] at hj
  obtain ⟨t, ht, rfl⟩ := Option.map_eq_some'.mp hj
  have := h j t ht
  by_cases hkj : k = j
  · subst hkj; simp_all
  · simp_all [Ne.symm hkj]

theorem SendersMatch.append {ts : List ServingThread} (h : SendersMatch none ts) :
    SendersMatch (some ts.length) (ts ++ [⟨.starting, 1, 0⟩]) := by
  intro j u hj
  rw [List.getElem?_append] at hj
  split at hj
  · rename_i hlt
    rw [h j u hj, if_neg nofun, if_neg (by simp; omega : some ts.length ≠ some j)]
  · rename_i hge
    obtain ⟨hz, rfl⟩ : j - ts.length = 0 ∧ ⟨.starting, 1, 0⟩ = u := by
      simpa [List.getElem?_cons, List.getElem?_nil] using hj
    obtain rfl : j = ts.length := by omega
    simp

/-! ## The invariant -/

/-- What every reachable state keeps: `running` is set exactly when a signal is held, the signal
is the channel of the newest thread, and a channel has a live sender exactly when it is the
signal's. -/
structure ServerSystem.Inv (sys : ServerSystem) : Prop where
  running_eq : sys.server.running = sys.server.shutdownSignal.isSome
  signal_newest : ∀ k, sys.server.shutdownSignal = some k → k + 1 = sys.threads.length
  senders : SendersMatch sys.server.shutdownSignal sys.threads

theorem ServerSystem.step_thread_eq_some {sys sys' : ServerSystem} {k : Nat} {e : ThreadEvent} :
    sys.step (.thread k e) = some sys' ↔
      ∃ t, sys.threads[k]? = some t ∧ ∃ t', t.step e = some t' ∧
        { sys with threads := sys.threads.set k t' } = sys' := by
  simp [step, Option.bind_eq_some]

theorem ServerSystem.inv_start {sys : ServerSystem} (h : sys.Inv) :
    (⟨(sys.server.start sys.threads).2.1, (sys.server.start sys.threads).2.2⟩ : ServerSystem).Inv := by
  obtain ⟨⟨signal, running⟩, ts⟩ := sys
  cases signal with
  | none => exact ⟨rfl, by simp [StaticServer.start], h.senders.append⟩
  | some old =>
    exact ⟨rfl, by simp [StaticServer.start], by simpa using h.senders.drop.append⟩

theorem ServerSystem.inv_stop {sys : ServerSystem} (h : sys.Inv) :
    (⟨(sys.server.stop sys.threads).2.1, (sys.server.stop sys.threads).2.2⟩ : ServerSystem).Inv := by
  rcases StaticServer.stop_cases sys.server sys.threads with ⟨he, -⟩ | ⟨k, t, hs, hk, he⟩ <;>
    rw [he]
  · exact h
  · have hq : ({ t with queued := t.queued + 1 } : ServingThread).senders = t.senders := rfl
    exact ⟨rfl, nofun, ((hs ▸ h.senders : SendersMatch (some k) _).set hk hq).drop⟩

theorem ServerSystem.inv_step {sys sys' : ServerSystem} {e : ServerEvent} (h : sys.Inv)
    (hs : sys.step e = some sys') : sys'.Inv := by
  cases e with
  | start => cases hs; exact inv_start h
  | stop => cases hs; exact inv_stop h
  | thread k e =>
    obtain ⟨t, hk, t', ht, rfl⟩ := step_thread_eq_some.mp hs
    exact ⟨h.running_eq, by simpa using h.signal_newest,
      h.senders.set hk (ServingThread.step_senders ht)⟩

/-- In every state reachable by any interleaving of `start`, `stop` and the serving threads'
steps, `running` is set exactly when a shutdown signal is held, the signal is the channel of the
newest thread, and a channel has a live sender exactly when it is the signal's. -/
theorem ServerSystem.reachable_inv {sys : ServerSystem} (h : sys.Reachable) : sys.Inv := by
  induction h with
  | init => exact ⟨rfl, nofun, fun _ _ h => by simp at h⟩
  | step _ _ hs ih => exact inv_step ih hs

theorem ServerSystem.reachable_inv_restart :
    let sys : ServerSystem := ⟨⟨some 1, true⟩, [⟨.serving, 0, 0⟩, ⟨.starting, 1, 0⟩]⟩
    sys.Reachable ∧ sys.Inv := by
  intro sys
  have hr : sys.Reachable := Reachable.init.run
    (show ServerSystem.run _ [.start, .thread 0 .serve, .start] = some sys by decide)
  exact ⟨hr, reachable_inv hr⟩

/-! ## Stopping the server -/

/-- On every reachable state, `stop` succeeds exactly when the server runs and its newest thread
has not ended. Otherwise it changes nothing, and fails with `"server is already stopped"` when
the server does not run and with the `SendError` text when it does. -/
theorem stop_ok_iff {sys : ServerSystem} (hr : sys.Reachable) :
    ((sys.server.stop sys.threads).1 = .ok () ↔
      sys.server.running ∧ ∃ t, sys.threads.getLast? = some t ∧ t.phase ≠ .finished) ∧
    ((sys.server.stop sys.threads).1 ≠ .ok () →
      (sys.server.stop sys.threads).2 = (sys.server, sys.threads) ∧
      (sys.server.stop sys.threads).1 = .error (.errorGeneric
        (if sys.server.running then "sending on a closed channel"
          else "server is already stopped"))) := by
  obtain ⟨hrun, hnew, -⟩ := ServerSystem.reachable_inv hr
  obtain ⟨⟨signal, running⟩, ts⟩ := sys
  simp only at hrun hnew ⊢
  subst hrun
  cases signal with
  | none => simp [StaticServer.stop]
  | some k =>
    have hlast : ts.getLast? = ts[k]? := by
      rw [List.getLast?_eq_getElem?, ← hnew k rfl, Nat.add_sub_cancel]
    simp only [StaticServer.stop, hlast, sendShutdown]
    cases ts[k]? with
    | none => simp
    | some t => by_cases hf : t.phase = .finished <;> simp [hf]

theorem stop_ok_iff_serving :
    let sys : ServerSystem := ⟨⟨some 0, true⟩, [⟨.serving, 1, 0⟩]⟩
    sys.Reachable ∧
    (((sys.server.stop sys.threads).1 = .ok () ↔
      sys.server.running ∧ ∃ t, sys.threads.getLast? = some t ∧ t.phase ≠ .finished) ∧
    ((sys.server.stop sys.threads).1 ≠ .ok () →
      (sys.server.stop sys.threads).2 = (sys.server, sys.threads) ∧
      (sys.server.stop sys.threads).1 = .error (.errorGeneric
        (if sys.server.running then "sending on a closed channel"
          else "server is already stopped")))) := by
  intro sys
  have hr : sys.Reachable := ServerSystem.Reachable.init.run
    (show ServerSystem.run _ [.start, .thread 0 .serve] = some sys by decide)
  exact ⟨hr, stop_ok_iff hr⟩

/-- On every reachable state, a serving thread returns from `recv` at its next step unless it is
the newest thread of a running server: starting again, or stopping, releases every other. -/
theorem only_newest_thread_blocks {sys : ServerSystem} (hr : sys.Reachable) {k : Nat}
    {t : ServingThread} (hk : sys.threads[k]? = some t) (hs : t.phase = .serving) :
    (t.step .recv).isSome ∨ (sys.server.running ∧ k + 1 = sys.threads.length) := by
  have h := ServerSystem.reachable_inv hr
  by_cases hsig : sys.server.shutdownSignal = some k
  · exact .inr ⟨by simp [h.running_eq, hsig], h.signal_newest k hsig⟩
  · have hsend := h.senders k t hk
    rw [if_neg hsig] at hsend
    left
    simp only [ServingThread.step, hs, if_true]
    split_ifs <;> simp_all

theorem only_newest_thread_blocks_restart :
    let sys : ServerSystem := ⟨⟨some 1, true⟩, [⟨.serving, 0, 0⟩, ⟨.serving, 1, 0⟩]⟩
    sys.Reachable ∧ sys.threads[0]? = some ⟨.serving, 0, 0⟩ ∧ ThreadPhase.serving = .serving ∧
    ((ServingThread.step ⟨.serving, 0, 0⟩ .recv).isSome ∨
      (sys.server.running ∧ 0 + 1 = sys.threads.length)) := by
  intro sys
  have hr : sys.Reachable := ServerSystem.Reachable.init.run
    (show ServerSystem.run _ [.start, .thread 0 .serve, .start, .thread 1 .serve] = some sys by
      decide)
  exact ⟨hr, rfl, rfl, only_newest_thread_blocks hr rfl rfl⟩

theorem ServerSystem.step_of_signal_ended {sys sys' : ServerSystem} {k : Nat}
    {t : ServingThread} (hs : sys.server.shutdownSignal = some k)
    (hk : sys.threads[k]? = some t) (hf : t.phase = .finished) {e : ServerEvent}
    (he : e ≠ .start) (h : sys.step e = some sys') :
    sys'.server = sys.server ∧ sys'.threads[k]? = some t := by
  cases e with
  | start => exact absurd rfl he
  | stop =>
    cases h
    simp [StaticServer.stop, hs, sendShutdown, hk, hf]
  | thread j e =>
    obtain ⟨u, hj, u', hu, rfl⟩ := step_thread_eq_some.mp h
    have hjk : j ≠ k := by
      rintro rfl
      rw [hk, Option.some.injEq] at hj
      rw [← hj, ServingThread.step_of_finished hf] at hu
      cases hu
    exact ⟨rfl, by rw [List.getElem?_set_ne hjk]; exact hk⟩

theorem ServerSystem.run_of_signal_ended {k : Nat} {t : ServingThread}
    (hf : t.phase = .finished) :
    ∀ {evs : List ServerEvent} {sys sys' : ServerSystem}, sys.server.shutdownSignal = some k →
      sys.threads[k]? = some t → ServerEvent.start ∉ evs → sys.run evs = some sys' →
      sys'.server = sys.server ∧ sys'.threads[k]? = some t
  | [], _, _, _, hk, _, h => by cases h; exact ⟨rfl, hk⟩
  | e :: evs, sys, sys', hs, hk, hno, h => by
    obtain ⟨s₁, h₁, h₂⟩ := run_cons_eq_some.mp h
    obtain ⟨hs₁, hk₁⟩ := step_of_signal_ended hs hk hf
      (fun he => hno (he ▸ List.mem_cons_self _ _)) h₁
    obtain ⟨hs', hk'⟩ := run_of_signal_ended hf (hs₁ ▸ hs) hk₁
      (fun hm => hno (List.mem_cons_of_mem _ hm)) h₂
    exact ⟨hs'.trans hs₁, hk'⟩

/-- Once the thread of the shutdown signal has ended (its bind or runtime panicked), every run of
events without `start` leaves the server as it is, `running` included, and `stop` keeps failing
with the `SendError` text. -/
theorem stop_fails_after_thread_ended {sys sys' : ServerSystem} {k : Nat} {t : ServingThread}
    (hs : sys.server.shutdownSignal = some k) (hk : sys.threads[k]? = some t)
    (hf : t.phase = .finished) {evs : List ServerEvent} (hno : ServerEvent.start ∉ evs)
    (hrun : sys.run evs = some sys') :
    sys'.server = sys.server ∧
      (sys'.server.stop sys'.threads).1 = .error (.errorGeneric "sending on a closed channel") := by
  obtain ⟨hs', hk'⟩ := ServerSystem.run_of_signal_ended hf hs hk hno hrun
  refine ⟨hs', ?_⟩
  simp [StaticServer.stop, hs', hs, sendShutdown, hk', hf]

theorem stop_fails_after_thread_ended_panic :
    let sys : ServerSystem := ⟨⟨some 0, true⟩, [⟨.finished, 1, 0⟩]⟩
    (⟨.fromConfigs, []⟩ : ServerSystem).run [.start, .thread 0 .panic] = some sys ∧
    sys.server.shutdownSignal = some 0 ∧ sys.threads[0]? = some ⟨.finished, 1, 0⟩ ∧
    ThreadPhase.finished = .finished ∧ ServerEvent.start ∉ [ServerEvent.stop, .stop] ∧
    sys.run [.stop, .stop] = some sys ∧
    (sys.server = sys.server ∧
      (sys.server.stop sys.threads).1 = .error (.errorGeneric "sending on a closed channel")) := by
  intro sys
  have hrun : sys.run [.stop, .stop] = some sys := by decide
  exact ⟨by decide, rfl, rfl, rfl, by decide, hrun,
    stop_fails_after_thread_ended rfl rfl rfl (by decide) hrun⟩

/-! ## Every thread can end after a stop -/

/-- No thread waits on a live sender: each has ended or its channel has no sender left. -/
def ThreadsReleased (ts : List ServingThread) : Prop :=
  ∀ (k : Nat) (t : ServingThread), ts[k]? = some t → t.phase = .finished ∨ t.senders = 0

theorem SendersMatch.released {ts : List ServingThread} (h : SendersMatch none ts) :
    ThreadsReleased ts :=
  fun k t hk => .inr (by simpa using h k t hk)

theorem ThreadsReleased.set {ts : List ServingThread} {k : Nat} {t' : ServingThread}
    (h : ThreadsReleased ts) (ht' : t'.phase = .finished ∨ t'.senders = 0) :
    ThreadsReleased (ts.set k t') := by
  intro j u hj
  by_cases hkj : k = j
  · subst hkj
    rw [List.getElem?_set_self'] at hj
    obtain ⟨_, -, rfl⟩ := Option.map_eq_some'.mp hj
    exact ht'
  · exact h j u (by rwa [List.getElem?_set_ne hkj] at hj)

theorem ThreadsReleased.drop {ts : List ServingThread} {k : Nat} (h : ThreadsReleased ts) :
    ThreadsReleased (dropSender ts k) := by
  intro j u hj
  rw [dropSender, List.getElem?_modify] at hj
  obtain ⟨t, ht, rfl⟩ := Option.map_eq_some'.mp hj
  rcases h j t ht with hf | hz <;> split <;> simp [*]

theorem ServerSystem.released_stop {sys : ServerSystem} (h : sys.Inv) :
    ThreadsReleased (sys.server.stop sys.threads).2.2 := by
  rcases StaticServer.stop_cases sys.server sys.threads with ⟨he, hf⟩ | ⟨k, t, hs, hk, he⟩ <;>
    rw [he]
  · intro j u hj
    by_cases hsig : sys.server.shutdownSignal = some j
    · exact .inl (hf j u hsig hj)
    · exact .inr (by simpa [hsig] using h.senders j u hj)
  · have hq : ({ t with queued := t.queued + 1 } : ServingThread).senders = t.senders := rfl
    exact ((hs ▸ h.senders : SendersMatch (some k) _).set hk hq).drop.released

theorem ServerSystem.released_step {sys sys' : ServerSystem} {e : ServerEvent}
    (h : ThreadsReleased sys.threads) (he : e ≠ .start) (hs : sys.step e = some sys') :
    ThreadsReleased sys'.threads := by
  cases e with
  | start => exact absurd rfl he
  | stop =>
    cases hs
    rcases StaticServer.stop_cases sys.server sys.threads with ⟨he, -⟩ | ⟨k, t, -, hk, he⟩ <;>
      rw [he]
    · exact h
    · exact (@ThreadsReleased.set _ k { t with queued := t.queued + 1 } h (h k t hk)).drop
  | thread k e =>
    obtain ⟨t, hk, t', ht, rfl⟩ := step_thread_eq_some.mp hs
    refine h.set (.inr ?_)
    rw [ServingThread.step_senders ht]
    exact (h k t hk).resolve_left fun hf => by simp [ServingThread.step_of_finished hf] at ht

theorem ServerSystem.released_run {sys sys' : ServerSystem} {evs : List ServerEvent}
    (h : ThreadsReleased sys.threads) (hno : ServerEvent.start ∉ evs)
    (hrun : sys.run evs = some sys') : ThreadsReleased sys'.threads := by
  induction evs generalizing sys with
  | nil => cases hrun; exact h
  | cons e evs ih =>
    obtain ⟨s₁, h₁, h₂⟩ := run_cons_eq_some.mp hrun
    exact ih (released_step h (fun he => hno (he ▸ List.mem_cons_self _ _)) h₁)
      (fun hm => hno (List.mem_cons_of_mem _ hm)) h₂

theorem ServerSystem.run_append {sys s₁ s₂ : ServerSystem} {evs₁ evs₂ : List ServerEvent}
    (h₁ : sys.run evs₁ = some s₁) (h₂ : s₁.run evs₂ = some s₂) :
    sys.run (evs₁ ++ evs₂) = some s₂ := by
  unfold run at *
  rw [List.foldlM_append, h₁]
  exact h₂

theorem ServingThread.recv_ends {t : ServingThread} (hs : t.phase = .serving)
    (h0 : t.senders = 0) : ∃ t', t.step .recv = some t' ∧ t'.phase = .finished := by
  by_cases hq : 0 < t.queued <;> simp [step, hs, h0, hq]

theorem ServerSystem.thread_ends {sys : ServerSystem} {k : Nat} {t : ServingThread}
    (h : ThreadsReleased sys.threads) (hk : sys.threads[k]? = some t) (hf : t.phase ≠ .finished) :
    ∃ evs, (∀ e ∈ evs, ∃ te, e = ServerEvent.thread k te) ∧ ∃ t', t'.phase = .finished ∧
      sys.run evs = some { sys with threads := sys.threads.set k t' } := by
  have h0 : t.senders = 0 := (h k t hk).resolve_left hf
  cases hp : t.phase with
  | finished => exact absurd hp hf
  | serving =>
    obtain ⟨t', ht, ht'⟩ := ServingThread.recv_ends hp h0
    exact ⟨[.thread k .recv], by simp, t', ht',
      run_cons_eq_some.mpr ⟨_, step_thread_eq_some.mpr ⟨t, hk, t', ht, rfl⟩, rfl⟩⟩
  | starting =>
    have h₁ : t.step .serve = some { t with phase := .serving } := by simp [ServingThread.step, hp]
    obtain ⟨t', ht, ht'⟩ := ServingThread.recv_ends (t := { t with phase := .serving }) rfl h0
    have hk₁ : (sys.threads.set k { t with phase := .serving })[k]? =
        some { t with phase := .serving } := by
      simp [(List.getElem?_eq_some_iff.mp hk).1]
    refine ⟨[.thread k .serve, .thread k .recv], by simp, t', ht',
      run_cons_eq_some.mpr ⟨_, step_thread_eq_some.mpr ⟨t, hk, _, h₁, rfl⟩,
        run_cons_eq_some.mpr ⟨_, step_thread_eq_some.mpr ⟨_, hk₁, t', ht, rfl⟩, ?_⟩⟩⟩
    rw [List.set_set]
    rfl

theorem ServerSystem.threads_end {sys : ServerSystem} (h : ThreadsReleased sys.threads) :
    ∀ m : Nat, ∃ evs, (∀ e ∈ evs, ∃ k te, e = ServerEvent.thread k te) ∧ ∃ sys',
      sys.run evs = some sys' ∧ sys'.threads.length = sys.threads.length ∧
      ∀ k < m, ∀ t : ServingThread, sys'.threads[k]? = some t → t.phase = .finished
  | 0 => ⟨[], nofun, sys, rfl, rfl, nofun⟩
  | m + 1 => by
    obtain ⟨evs, hev, s₁, hrun, hlen, hdone⟩ := threads_end h m
    have h₁ : ThreadsReleased s₁.threads := released_run h
      (fun hm => by obtain ⟨k, te, he⟩ := hev _ hm; cases he) hrun
    by_cases hm : ∀ t, s₁.threads[m]? = some t → t.phase = .finished
    · refine ⟨evs, hev, s₁, hrun, hlen, fun k hk t ht => ?_⟩
      rcases Nat.lt_succ_iff_lt_or_eq.mp hk with hk | rfl
      · exact hdone k hk t ht
      · exact hm t ht
    · push_neg at hm
      obtain ⟨t, hk, hf⟩ := hm
      obtain ⟨evs₂, hev₂, t', ht', hrun₂⟩ := thread_ends h₁ hk hf
      refine ⟨evs ++ evs₂, ?_, _, run_append hrun hrun₂, by simp [hlen], fun j hj u hu => ?_⟩
      · simp only [List.mem_append]
        rintro e (he | he)
        · exact hev e he
        · exact ⟨m, hev₂ e he⟩
      · by_cases hmj : m = j
        · subst hmj
          rw [List.getElem?_set_self'] at hu
          obtain ⟨_, -, rfl⟩ := Option.map_eq_some'.mp hu
          exact ht'
        · rw [List.getElem?_set_ne hmj] at hu
          exact hdone j (by omega) u hu

/-- After a `stop` on any reachable state, whether it went through or failed, and after any
events but `start`, every thread can still end by its own steps: none is left waiting in `recv`
on a sender that is never dropped. -/
theorem stop_lets_every_thread_end {sys sys' : ServerSystem} (hr : sys.Reachable)
    {evs : List ServerEvent} (hno : ServerEvent.start ∉ evs) (hrun : sys.run (.stop :: evs) = some sys') :
    ∃ evs', (∀ e ∈ evs', ∃ k te, e = ServerEvent.thread k te) ∧ ∃ sys'',
      sys'.run evs' = some sys'' ∧ ∀ t ∈ sys''.threads, t.phase = .finished := by
  obtain ⟨s₁, h₁, h₂⟩ := ServerSystem.run_cons_eq_some.mp hrun
  cases h₁
  have h := ServerSystem.released_run (ServerSystem.released_stop (ServerSystem.reachable_inv hr))
    hno h₂
  obtain ⟨evs', hev, sys'', hrun', hlen, hdone⟩ := ServerSystem.threads_end h sys'.threads.length
  refine ⟨evs', hev, sys'', hrun', fun t ht => ?_⟩
  obtain ⟨k, hk, rfl⟩ := List.getElem_of_mem ht
  exact hdone k (hlen ▸ hk) _ (List.getElem?_eq_getElem hk)

theorem stop_lets_every_thread_end_restarted :
    let sys : ServerSystem := ⟨⟨some 1, true⟩, [⟨.serving, 0, 0⟩, ⟨.starting, 1, 0⟩]⟩
    let sys' : ServerSystem := ⟨⟨none, false⟩, [⟨.serving, 0, 0⟩, ⟨.starting, 0, 1⟩]⟩
    sys.Reachable ∧ ServerEvent.start ∉ ([] : List ServerEvent) ∧ sys.run [.stop] = some sys' ∧
    ∃ evs', (∀ e ∈ evs', ∃ k te, e = ServerEvent.thread k te) ∧ ∃ sys'',
      sys'.run evs' = some sys'' ∧ ∀ t ∈ sys''.threads, t.phase = .finished := by
  intro sys sys'
  have hr : sys.Reachable := ServerSystem.Reachable.init.run
    (show ServerSystem.run _ [.start, .thread 0 .serve, .start] = some sys by decide)
  have hrun : sys.run [.stop] = some sys' := by decide
  exact ⟨hr, List.not_mem_nil _, hrun, stop_lets_every_thread_end hr (List.not_mem_nil _) hrun⟩

/-! ## Serving a request -/

/-- `DNA_CONFIG_ROUTE`. -/
def dnaConfigRoute : String := "/_dna_connections.json"

/-- The parts of a request that the service and `hyper_staticfile` read. -/
structure Request where
  method : String
  path : String
  query : Option String
  deriving DecidableEq, Repr

/-- `hyper_staticfile::ResolveResult`, a found file given by its path. -/
inductive ResolveResult where
  | methodNotMatched
  | uriNotMatched
  | notFound
  | permissionDenied
  | isDirectory
  | found (file : String)
  deriving DecidableEq, Repr

/-- `redirect_request_to_root`: the path and query of the URI become `/`. -/
def redirectRequestToRoot (req : Request) : Request := { req with path := "/", query := none }

/-- `StaticService`: the root of the static files and the connected DNA interface, of the
configuration type `I`, which only its JSON text is read from. -/
structure StaticService (I : Type) where
  root : String
  dnaInterfaceConfig : Option I

/-- `MainFuture`: the static serving of a request, or the DNA interface configuration. -/
inductive MainFuture (I : Type) where
  | static (req : Request)
  | config (config : Option I)

/-- `StaticService::call`. `hyper_staticfile::resolve` under a root is the parameter `resolve`;
an I/O error of the resolution, given by its `Debug` text, panics in `unwrap`. -/
def StaticService.call {I : Type} (resolve : String → Request → Except String ResolveResult)
    (svc : StaticService I) (req : Request) : Except Panic (MainFuture I) :=
  if req.path = dnaConfigRoute then .ok (.config svc.dnaInterfaceConfig)
  else
    match resolve svc.root req with
    | .ok .notFound => .ok (.static (redirectRequestToRoot req))
    | .ok _ => .ok (.static req)
    | .error e => .error (.unwrap e)

/-- A response: its status code and body. -/
structure HttpResponse where
  status : Nat
  body : String
  deriving DecidableEq, Repr

/-- `dna_connections_response`: status 200 and the JSON `{"dna_interface": ..}` of the
connected interface, or `null`; `toJson` is the interface's serialisation. -/
def dnaConnectionsResponse {I : Type} (toJson : I → String) (config : Option I) : HttpResponse :=
  ⟨200, "\x7b\"dna_interface\":" ++ (match config with | some c => toJson c | none => "null") ++
    "\x7d"⟩

/-- `MainFuture::poll`: the configuration is answered at once, and a static future is the
response of `Static::serve`, the parameter `serve`. -/
def MainFuture.poll {I : Type} (toJson : I → String)
    (serve : Request → Except String HttpResponse) : MainFuture I → Except String HttpResponse
  | .config c => .ok (dnaConnectionsResponse toJson c)
  | .static req => serve req

theorem StaticService.call_cases {I : Type} {resolve : String → Request → Except String ResolveResult}
    {svc : StaticService I} {req : Request} {f : MainFuture I} (h : svc.call resolve req = .ok f) :
    (req.path = dnaConfigRoute ∧ f = .config svc.dnaInterfaceConfig) ∨
      (req.path ≠ dnaConfigRoute ∧
        ((resolve svc.root req = .ok .notFound ∧ f = .static (redirectRequestToRoot req)) ∨
          (resolve svc.root req ≠ .ok .notFound ∧ f = .static req))) := by
  unfold call at h
  split_ifs at h with hp
  · cases h; exact .inl ⟨hp, rfl⟩
  · refine .inr ⟨hp, ?_⟩
    split at h <;> cases h
    · exact .inl ⟨‹_›, rfl⟩
    · exact .inr ⟨by simp_all, rfl⟩

end Holochain
