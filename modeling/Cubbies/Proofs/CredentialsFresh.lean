import Cubbies.Lib.Runs
import Cubbies.Wifi

set_option autoImplicit false

/-! # When `bleWriteCredentials` may be believed

The connected bit stays set from a got-IP event until a wait clears it, and only `__connect` waits for
it. A reconnect that nobody waits for leaves the bit set, and the next `__connect` takes it for the
answer to its own request. `bleWriteCredentials_worked_iff` says exactly when that does not happen. -/

namespace Cubbies

namespace Wifi

/-- Whether a got-IP event was reported after the latest `esp_wifi_connect` of `__connect`, in a
history with its latest entry first. -/
def gotIpSinceConnect : List WifiAction → Bool
  | [] => false
  | .connectIssued _ :: _ => false
  | .reported .staGotIp :: _ => true
  | _ :: older => gotIpSinceConnect older

/-- The configuration of the latest `esp_wifi_connect` of `__connect`. -/
def lastConnectConfig : List WifiAction → Option Credentials
  | [] => none
  | .connectIssued c :: _ => some c
  | _ :: older => lastConnectConfig older

/-- A call that returns true has stored the new credentials, and before that the station had got an
address after `esp_wifi_connect` was called with them. -/
def CredentialsWorked (w : Wifi) (s : CredentialsScript) (new : Credentials) : Prop :=
  (w.bleWriteCredentials s new).1 = true →
    ∃ older, (w.bleWriteCredentials s new).2.history = .stored new :: older ∧
      gotIpSinceConnect older = true ∧ lastConnectConfig older = some new

/-- Every replacement of the stored credentials in a history is by credentials that had worked. -/
def StoredWorked : List WifiAction → Prop
  | [] => True
  | .stored c :: older =>
      gotIpSinceConnect older = true ∧ lastConnectConfig older = some c ∧ StoredWorked older
  | _ :: older => StoredWorked older

/-- The station events of a call up to its `esp_wifi_connect`. -/
def eventsBeforeConnect (w : Wifi) (s : CredentialsScript) : List StaEvent :=
  (if w.connected then s.stop.events else []) ++ s.starting

/-- The station events of a call from its `esp_wifi_connect` to the end of its last wait. -/
def eventsAfterConnect (w : Wifi) (s : CredentialsScript) : List StaEvent :=
  s.connect.events ++ (if w.count = 0 then s.release.events else [])

/-- Either no got-IP event is left over when the call issues its request, or one follows the request
in time. -/
def NoStaleConnection (w : Wifi) (s : CredentialsScript) : Prop :=
  (w.connectedBit = false ∧ StaEvent.staGotIp ∉ w.eventsBeforeConnect s) ∨
    StaEvent.staGotIp ∈ w.eventsAfterConnect s

instance (w : Wifi) (s : CredentialsScript) : Decidable (w.NoStaleConnection s) :=
  inferInstanceAs (Decidable (_ ∨ _))

/-- The guard of a run: each call of `bleWriteCredentials` in it finds no stale connection. -/
def FreshStep (w : Wifi) (e : Event) : Prop :=
  ∀ s new, e = .bleWriteCredentials s new → w.NoStaleConnection s

/-! ## The failed bit is never set -/

theorem disconnectPrivate_spec (w : Wifi) (s : WaitScript) (hfail : w.failedBit = false) :
    (w.disconnectPrivate s).2.connectedBit =
        (w.connectedBit || decide (StaEvent.staGotIp ∈ s.events)) ∧
      (w.disconnectPrivate s).2.history =
        (s.events.map WifiAction.reported).reverse ++ w.history ∧
      (w.disconnectPrivate s).2.failedBit = false := by
  obtain ⟨h1, -, -, -⟩ := deliver_frame { w with connectFlag := false } s.before
  obtain ⟨g1, g2, g3⟩ := waitDisconnected_spec _ s.during (h1.trans hfail)
  rw [deliver_connectedBit] at g1
  rw [deliver_history] at g2
  have hres : ∀ b : Bool, ∀ w' : Wifi,
      (if b then (true, { w' with connected := false }) else (false, w')).2.connectedBit =
          w'.connectedBit ∧
        (if b then (true, { w' with connected := false }) else (false, w')).2.history =
          w'.history ∧
        (if b then (true, { w' with connected := false }) else (false, w')).2.failedBit =
          w'.failedBit := by
    intro b w'
    cases b <;> exact ⟨rfl, rfl, rfl⟩
  obtain ⟨r1, r2, r3⟩ := hres _ (({ w with connectFlag := false }.deliver s.before).waitDisconnected
    s.during).2
  unfold disconnectPrivate
  refine ⟨r1.trans (g1.trans ?_), r2.trans (g2.trans ?_), r3.trans g3⟩
  · simp [WaitScript.events, Bool.or_assoc]
  · simp [WaitScript.events]

theorem connectPrivate_spec (w : Wifi) (s : WaitScript) (hfail : w.failedBit = false) :
    ((w.connectPrivate s).1 = 0 ↔ w.connectedBit = true ∨ StaEvent.staGotIp ∈ s.events) ∧
      (w.connectPrivate s).2.history =
        (s.events.map WifiAction.reported).reverse ++ .connectIssued w.staConfig :: w.history ∧
      (w.connectPrivate s).2.failedBit = false ∧ (w.connectPrivate s).2.count = w.count := by
  obtain ⟨h1, h2, -, -⟩ := deliver_frame w.issueConnect s.before
  obtain ⟨g1, g2, g3, g4⟩ := waitConnected_spec _ s.during (h1.trans hfail)
  rw [deliver_connectedBit] at g1
  rw [deliver_history] at g2
  have hbit : w.issueConnect.connectedBit = w.connectedBit := rfl
  have hres : ∀ b : Bool, ∀ w' : Wifi,
      ((if b then ((0 : UInt8), { w' with connected := true }) else (1, w')).1 = 0 ↔ b = true) ∧
        (if b then ((0 : UInt8), { w' with connected := true }) else (1, w')).2.history =
          w'.history ∧
        (if b then ((0 : UInt8), { w' with connected := true }) else (1, w')).2.failedBit =
          w'.failedBit ∧
        (if b then ((0 : UInt8), { w' with connected := true }) else (1, w')).2.count =
          w'.count := by
    intro b w'
    cases b with
    | true => exact ⟨iff_of_true rfl rfl, rfl, rfl, rfl⟩
    | false => exact ⟨iff_of_false (by decide : ¬ (1 : UInt8) = 0) (by decide), rfl, rfl, rfl⟩
  obtain ⟨r1, r2, r3, r4⟩ := hres ((w.issueConnect.deliver s.before).waitConnected s.during).1
    ((w.issueConnect.deliver s.before).waitConnected s.during).2
  unfold connectPrivate
  refine ⟨r1.trans ?_, r2.trans (g2.trans ?_), r3.trans g3, r4.trans (g4.trans h2)⟩
  · rw [g1, hbit]
    simp [WaitScript.events, or_assoc]
  · simp [WaitScript.events, issueConnect]

theorem prepareCredentials_spec (w : Wifi) (s : CredentialsScript) (new : Credentials)
    (hfail : w.failedBit = false) :
    (w.prepareCredentials s new).connectedBit =
        (w.connectedBit || decide (StaEvent.staGotIp ∈ w.eventsBeforeConnect s)) ∧
      (w.prepareCredentials s new).history =
        ((w.eventsBeforeConnect s).map WifiAction.reported).reverse ++ w.history ∧
      (w.prepareCredentials s new).failedBit = false ∧
      (w.prepareCredentials s new).staConfig = new := by
  unfold prepareCredentials isConnected eventsBeforeConnect
  cases hconn : w.connected with
  | true =>
      obtain ⟨h1, h2, h3⟩ := disconnectPrivate_spec w s.stop hfail
      obtain ⟨g1, -, -, g4⟩ := deliver_frame ((w.disconnectPrivate s.stop).2.setConfig new) s.starting
      simp only [if_true]
      refine ⟨?_, ?_, g1.trans h3, g4⟩
      · rw [deliver_connectedBit]
        simp [setConfig, h1, Bool.or_assoc]
      · rw [deliver_history]
        simp [setConfig, h2]
  | false =>
      obtain ⟨g1, -, -, g4⟩ := deliver_frame (w.setConfig new) s.starting
      simp only [Bool.false_eq_true, if_false, List.nil_append]
      refine ⟨?_, deliver_history _ _, g1.trans hfail, g4⟩
      rw [deliver_connectedBit]
      rfl

/-- The use count is not touched before the request is issued. -/
theorem prepareCredentials_count (w : Wifi) (s : CredentialsScript) (new : Credentials) :
    (w.prepareCredentials s new).count = w.count := by
  have hdisc : (w.disconnectPrivate s.stop).2.count = w.count := by
    have hwait := (unaffected_count.waitDisconnected _ s.stop.during).trans
      (unaffected_count.deliver { w with connectFlag := false } s.stop.before)
    unfold disconnectPrivate
    dsimp only
    split
    · exact hwait
    · exact hwait
  unfold prepareCredentials
  rw [unaffected_count.deliver]
  split
  · exact hdisc
  · rfl

theorem bleWriteCredentials_failedBit (w : Wifi) (s : CredentialsScript) (new : Credentials)
    (hfail : w.failedBit = false) : (w.bleWriteCredentials s new).2.failedBit = false := by
  obtain ⟨-, -, hprep, -⟩ := prepareCredentials_spec w s new hfail
  obtain ⟨-, -, hconn, -⟩ := connectPrivate_spec _ s.connect hprep
  unfold bleWriteCredentials
  generalize (w.prepareCredentials s new).connectPrivate s.connect = r at hconn
  obtain ⟨code, w'⟩ := r
  dsimp only at hconn ⊢
  split
  · dsimp only [writeCredentials]
    split
    · exact (disconnectPrivate_spec w' s.release hconn).2.2
    · exact hconn
  · split
    · exact hconn
    · exact (connectPrivate_spec (w'.setConfig w'.credentials) s.fallback hconn).2.2.1

/-- No step sets `WIFI_FAILED_BIT`. -/
theorem step_failedBit (w : Wifi) (e : Event) (hfail : w.failedBit = false) :
    (w.step e).failedBit = false := by
  cases e with
  | station e => exact (eventHandler_frame w e).1.trans hfail
  | init => exact hfail
  | configSdCardCredentials =>
      have hread : w.readCredentials.2.failedBit = false := by
        unfold readCredentials
        split <;> exact hfail
      unfold step configSdCardCredentials
      dsimp only
      split <;> exact hread
  | connect s =>
      unfold step connect
      dsimp only
      split
      · exact hfail
      · split
        · exact hfail
        · exact (connectPrivate_spec { w with count := w.count + 1 } s hfail).2.2.1
  | disconnect s =>
      unfold step disconnect
      dsimp only
      split
      · exact hfail
      · split
        · exact (disconnectPrivate_spec { w with count := w.count - 1 } s hfail).2.2
        · exact hfail
  | bleWriteCredentials s new => exact bleWriteCredentials_failedBit w s new hfail

theorem reached_failedBit {ok : Wifi → Event → Prop} {file : Option Credentials} {w : Wifi}
    (h : Runs.Reached (fun w e w' => w' = w.step e) ok (boot file) w) : w.failedBit = false := by
  refine h.invariant (I := fun w => w.failedBit = false) rfl ?_
  rintro w e _ hfail - rfl
  exact step_failedBit w e hfail

/-! ## Fresh and stale success -/

theorem gotIpSinceConnect_events (es : List StaEvent) (c : Credentials) (h : List WifiAction) :
    gotIpSinceConnect ((es.map WifiAction.reported).reverse ++ .connectIssued c :: h) =
      decide (StaEvent.staGotIp ∈ es) := by
  rw [← List.map_reverse]
  have hrev : ∀ l : List StaEvent,
      gotIpSinceConnect (l.map WifiAction.reported ++ .connectIssued c :: h) =
        decide (StaEvent.staGotIp ∈ l) := by
    intro l
    induction l with
    | nil => simp [gotIpSinceConnect]
    | cons e l ih => cases e <;> simp [gotIpSinceConnect, ih]
  rw [hrev]
  simp

theorem lastConnectConfig_events (es : List StaEvent) (c : Credentials) (h : List WifiAction) :
    lastConnectConfig ((es.map WifiAction.reported).reverse ++ .connectIssued c :: h) =
      some c := by
  rw [← List.map_reverse]
  induction es.reverse with
  | nil => rfl
  | cons e l ih => simpa [lastConnectConfig] using ih

/-- What a call returns, and the history of one that returns true. -/
theorem bleWriteCredentials_spec (w : Wifi) (s : CredentialsScript) (new : Credentials)
    (hfail : w.failedBit = false) :
    ((w.bleWriteCredentials s new).1 = true ↔
        (w.connectedBit = true ∨ StaEvent.staGotIp ∈ w.eventsBeforeConnect s) ∨
          StaEvent.staGotIp ∈ s.connect.events) ∧
      ((w.bleWriteCredentials s new).1 = true →
        (w.bleWriteCredentials s new).2.history =
          .stored new :: (((w.eventsAfterConnect s).map WifiAction.reported).reverse ++
            .connectIssued new :: (w.prepareCredentials s new).history)) := by
  obtain ⟨hbit, -, hprep, hconf⟩ := prepareCredentials_spec w s new hfail
  obtain ⟨hret, hhist, hconn, hcount⟩ := connectPrivate_spec _ s.connect hprep
  rw [hbit] at hret
  rw [hconf] at hhist
  rw [prepareCredentials_count] at hcount
  unfold bleWriteCredentials eventsAfterConnect
  dsimp only
  split
  · next hzero =>
      have hsees := hret.1 hzero
      simp only [Bool.or_eq_true, decide_eq_true_eq] at hsees
      refine ⟨iff_of_true rfl hsees, fun _ => ?_⟩
      rw [hcount]
      dsimp only [writeCredentials]
      split
      · rw [(disconnectPrivate_spec _ s.release hconn).2.1, hhist]
        simp
      · rw [hhist]
        simp
  · next hzero =>
      have hsees : ¬ _ := fun h => hzero (hret.2 h)
      simp only [Bool.or_eq_true, decide_eq_true_eq] at hsees
      split
      · exact ⟨iff_of_false Bool.false_ne_true hsees, fun h => absurd h Bool.false_ne_true⟩
      · exact ⟨iff_of_false Bool.false_ne_true hsees, fun h => absurd h Bool.false_ne_true⟩

theorem credentialsWorked_iff_noStale (w : Wifi) (s : CredentialsScript) (new : Credentials)
    (hfail : w.failedBit = false) : CredentialsWorked w s new ↔ NoStaleConnection w s := by
  obtain ⟨hret, hhist⟩ := bleWriteCredentials_spec w s new hfail
  constructor
  · intro hworked
    by_cases hafter : StaEvent.staGotIp ∈ w.eventsAfterConnect s
    · exact Or.inr hafter
    · refine Or.inl ?_
      by_contra hstale
      have hbit : w.connectedBit = true ∨ StaEvent.staGotIp ∈ w.eventsBeforeConnect s := by
        cases hb : w.connectedBit with
        | true => exact Or.inl rfl
        | false => exact Or.inr (by_contra fun hno => hstale ⟨hb, hno⟩)
      have htrue := hret.2 (Or.inl hbit)
      obtain ⟨older, holder, hfresh, -⟩ := hworked htrue
      rw [hhist htrue, List.cons.injEq] at holder
      rw [← holder.2, gotIpSinceConnect_events] at hfresh
      exact hafter (of_decide_eq_true hfresh)
  · intro hno htrue
    refine ⟨_, hhist htrue, ?_, lastConnectConfig_events _ _ _⟩
    rw [gotIpSinceConnect_events, decide_eq_true_eq]
    rcases hno with ⟨hbit, hbefore⟩ | hafter
    · rcases hret.1 htrue with (h | h) | h
      · rw [hbit] at h; cases h
      · exact absurd h hbefore
      · exact List.mem_append_left _ h
    · exact hafter

/-! ## Runs -/

theorem storedWorked_events (es : List StaEvent) (h : List WifiAction) :
    StoredWorked ((es.map WifiAction.reported).reverse ++ h) ↔ StoredWorked h := by
  rw [← List.map_reverse]
  induction es.reverse with
  | nil => rfl
  | cons e l ih => exact ih

theorem storedWorked_connectIssued (c : Credentials) (h : List WifiAction) :
    StoredWorked (.connectIssued c :: h) ↔ StoredWorked h := Iff.rfl

/-- What a call that returns false adds to the history: requests and station events. -/
theorem bleWriteCredentials_false_history (w : Wifi) (s : CredentialsScript) (new : Credentials)
    (hfail : w.failedBit = false) (hret : (w.bleWriteCredentials s new).1 = false)
    (hw : StoredWorked w.history) : StoredWorked (w.bleWriteCredentials s new).2.history := by
  obtain ⟨-, hprep, hprepFail, -⟩ := prepareCredentials_spec w s new hfail
  obtain ⟨-, hconn, hconnFail, -⟩ := connectPrivate_spec _ s.connect hprepFail
  have hafter : StoredWorked ((w.prepareCredentials s new).connectPrivate s.connect).2.history := by
    rw [hconn, storedWorked_events, storedWorked_connectIssued, hprep, storedWorked_events]
    exact hw
  unfold bleWriteCredentials at hret ⊢
  generalize (w.prepareCredentials s new).connectPrivate s.connect = r at hafter hconnFail hret ⊢
  obtain ⟨code, w'⟩ := r
  dsimp only at hafter hconnFail hret ⊢
  split
  · next hzero => rw [if_pos hzero] at hret; cases hret
  · split
    · exact hafter
    · rw [(connectPrivate_spec (w'.setConfig w'.credentials) s.fallback hconnFail).2.1,
        storedWorked_events]
      exact hafter

/-- A call that finds no stale connection stores nothing but credentials that worked. -/
theorem bleWriteCredentials_storedWorked (w : Wifi) (s : CredentialsScript) (new : Credentials)
    (hfail : w.failedBit = false) (hfresh : w.NoStaleConnection s) (hw : StoredWorked w.history) :
    StoredWorked (w.bleWriteCredentials s new).2.history := by
  cases hret : (w.bleWriteCredentials s new).1 with
  | false => exact bleWriteCredentials_false_history w s new hfail hret hw
  | true =>
      obtain ⟨older, holder, hgot, hconf⟩ :=
        (credentialsWorked_iff_noStale w s new hfail).2 hfresh hret
      have hhist := (bleWriteCredentials_spec w s new hfail).2 hret
      rw [holder, List.cons.injEq] at hhist
      obtain ⟨-, hprep, -, -⟩ := prepareCredentials_spec w s new hfail
      rw [holder]
      refine ⟨hgot, hconf, ?_⟩
      rw [hhist.2, storedWorked_events, storedWorked_connectIssued, hprep, storedWorked_events]
      exact hw

theorem step_storedWorked (w : Wifi) (e : Event) (hfail : w.failedBit = false)
    (hok : FreshStep w e) (hw : StoredWorked w.history) : StoredWorked (w.step e).history := by
  cases e with
  | station e =>
      rw [step, eventHandler_history]
      exact hw
  | init => exact hw
  | configSdCardCredentials =>
      have hread : w.readCredentials.2.history = w.history := by
        unfold readCredentials
        split <;> rfl
      unfold step configSdCardCredentials
      dsimp only
      split
      · exact hread ▸ hw
      · exact hread ▸ hw
  | connect s =>
      unfold step connect
      dsimp only
      split
      · exact hw
      · split
        · exact hw
        · rw [(connectPrivate_spec { w with count := w.count + 1 } s hfail).2.1,
            storedWorked_events]
          exact hw
  | disconnect s =>
      unfold step disconnect
      dsimp only
      split
      · exact hw
      · split
        · rw [(disconnectPrivate_spec { w with count := w.count - 1 } s hfail).2.1,
            storedWorked_events]
          exact hw
        · exact hw
  | bleWriteCredentials s new =>
      exact bleWriteCredentials_storedWorked w s new hfail (hok s new rfl) hw

theorem reached_storedWorked {file : Option Credentials} {w : Wifi}
    (h : Runs.Reached (fun w e w' => w' = w.step e) FreshStep (boot file) w) :
    StoredWorked w.history := by
  have hboot : StoredWorked (boot file).history := trivial
  refine (h.invariant (I := fun w => w.failedBit = false ∧ StoredWorked w.history)
    ⟨rfl, hboot⟩ ?_).2
  rintro w e _ ⟨hfail, hw⟩ hok rfl
  exact ⟨step_failedBit w e hfail, step_storedWorked w e hfail hok hw⟩

/-- **Stored credentials worked, exactly when no stale bit was taken for success.** In a run in which
no call of `bleWriteCredentials` finds a stale connection, whatever was stored had worked. After any
run, a call returns true only after a got-IP event for its own request if and only if the connected
bit was clear when it issued the request or such an event did follow. -/
theorem bleWriteCredentials_worked_iff (file : Option Credentials) :
    (∀ w, Runs.Reached (fun w e w' => w' = w.step e) FreshStep (boot file) w →
      StoredWorked w.history) ∧
    ∀ w, Runs.Reached (fun w e w' => w' = w.step e) (fun _ _ => True) (boot file) w →
      ∀ s new, CredentialsWorked w s new ↔ NoStaleConnection w s :=
  ⟨fun _ h => reached_storedWorked h,
    fun w h s new => credentialsWorked_iff_noStale w s new (reached_failedBit h)⟩

/-! ## The stale bit -/

/-- A connection that works, is lost and comes back by itself; then a call of `bleWriteCredentials`
during which the station reports nothing but the end of the old connection. -/
def staleRun : List Event :=
  [.init, .configSdCardCredentials, .connect ⟨[], [.staGotIp]⟩, .station .staDisconnected,
    .station .staGotIp]

def staleScript : CredentialsScript :=
  ⟨⟨[], [.staDisconnected]⟩, [], ⟨[], []⟩, ⟨[], []⟩, true, ⟨[], []⟩⟩

def home : Credentials := ⟨CString.str "home", CString.str "secret"⟩

theorem bleWriteCredentials_worked_home :
    StoredWorked (boot (some home)).history ∧
      ∀ new, CredentialsWorked (staleRun.foldl step (boot (some home)))
        { staleScript with connect := ⟨[], [.staGotIp]⟩ } new := by
  obtain ⟨hrun, hcall⟩ := bleWriteCredentials_worked_iff (some home)
  exact ⟨hrun _ .start, fun new =>
    (hcall _ (Runs.reached_foldl step _ staleRun) _ new).2 (by decide)⟩

theorem bleWriteCredentials_not_worked :
    Runs.Reached (fun w e w' => w' = w.step e) (fun _ _ => True) (boot (some home))
        (staleRun.foldl step (boot (some home))) ∧
      ¬ CredentialsWorked (staleRun.foldl step (boot (some home))) staleScript
        ⟨CString.str "cafe", CString.str "wrong"⟩ := by
  have hreached := Runs.reached_foldl step (boot (some home)) staleRun
  refine ⟨hreached, ?_⟩
  rw [credentialsWorked_iff_noStale _ _ _ (reached_failedBit hreached)]
  decide

end Wifi

end Cubbies
