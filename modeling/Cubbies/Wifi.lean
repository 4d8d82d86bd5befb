import Cubbies.Lib.CString
import Mathlib.Tactic.Common

set_option autoImplicit false

/-! # The WiFi object (`wifi.cpp`)

`WiFi` keeps a use count, a `connected` flag and the credentials; the station's events arrive from
another task and set bits of an event group, which `xEventGroupWaitBits` reads and clears. A call is
modelled with the station events that arrive while it runs: a `WaitScript` holds those between the
request to the driver and the wait, and those while the wait blocks.

`history` is ghost state, latest entry first: what the driver was asked, what it reported, and when
credentials were stored. -/

namespace Cubbies

open CString

/-- `credentials_t`. -/
structure Credentials where
  ssid : Bytes
  password : Bytes
  deriving DecidableEq

/-- The two events `eventHandler` is registered for. -/
inductive StaEvent where
  | staDisconnected
  | staGotIp
  deriving DecidableEq

inductive WifiAction where
  /-- `__connect` called `esp_wifi_connect` with this station configuration -/
  | connectIssued (config : Credentials)
  | reported (e : StaEvent)
  /-- `writeCredentials` replaced the stored credentials -/
  | stored (c : Credentials)
  deriving DecidableEq

/-- The station events around one `xEventGroupWaitBits`. -/
structure WaitScript where
  before : List StaEvent
  during : List StaEvent

def WaitScript.events (s : WaitScript) : List StaEvent := s.before ++ s.during

structure Wifi where
  wifiInitDoneFlag : Bool
  count : ℤ
  connected : Bool
  connectFlag : Bool
  credentials : Credentials
  /-- the file `CREDENTIALS_SDCARD_LOCATION` -/
  credentialsFile : Option Credentials
  connectedBit : Bool
  disconnectedBit : Bool
  failedBit : Bool
  /-- the configuration last given to `esp_wifi_set_config` -/
  staConfig : Credentials
  history : List WifiAction

namespace Wifi

/-- The object after `new WiFi()`, with whatever credentials file the card holds. -/
def boot (credentialsFile : Option Credentials) : Wifi where
  wifiInitDoneFlag := false
  count := 0
  connected := false
  connectFlag := false
  credentials := ⟨[], []⟩
  credentialsFile := credentialsFile
  connectedBit := false
  disconnectedBit := false
  failedBit := false
  staConfig := ⟨[], []⟩
  history := []

/-- `WiFi::init`. -/
def init (w : Wifi) : UInt8 × Wifi := (0, { w with wifiInitDoneFlag := true })

/-- `WiFi::readCredentials`. -/
def readCredentials (w : Wifi) : UInt8 × Wifi :=
  match w.credentialsFile with
  | some c => (0, { w with credentials := c })
  | none => (1, { w with credentials := ⟨[], []⟩ })

/-- `esp_wifi_set_mode`, `esp_wifi_set_config` and `esp_wifi_start`. -/
def setConfig (w : Wifi) (c : Credentials) : Wifi := { w with staConfig := c }

/-- `WiFi::ConfigSdCardCredentials`. -/
def configSdCardCredentials (w : Wifi) : UInt8 × Wifi :=
  let r := w.readCredentials
  if r.1 ≠ 0 then (1, r.2) else (0, r.2.setConfig r.2.credentials)

/-! ## Station events and waits -/

/-- `WiFi::eventHandler`: a lost link is reported as `WIFI_DISCONNECTED_BIT` only when the box asked
for it, otherwise the driver is told to reconnect. -/
def eventHandler (w : Wifi) (e : StaEvent) : Wifi :=
  let w := { w with history := .reported e :: w.history }
  match e with
  | .staDisconnected => if w.connectFlag then w else { w with disconnectedBit := true }
  | .staGotIp => { w with connectedBit := true }

/-- The events of a list, one after the other. -/
def deliver (w : Wifi) (es : List StaEvent) : Wifi := es.foldl eventHandler w

/-- `xEventGroupWaitBits` on `WIFI_CONNECTED_BIT | WIFI_FAILED_BIT`, clearing them on return: whether
the connected bit was among the bits it returned. Events that remain come after it. -/
def waitConnected (w : Wifi) : List StaEvent → Bool × Wifi
  | [] =>
      if w.connectedBit || w.failedBit then
        (w.connectedBit, { w with connectedBit := false, failedBit := false })
      else (false, w)
  | e :: es =>
      if w.connectedBit || w.failedBit then
        (w.connectedBit, { w with connectedBit := false, failedBit := false }.deliver (e :: es))
      else (w.eventHandler e).waitConnected es

/-- The same on `WIFI_DISCONNECTED_BIT | WIFI_FAILED_BIT`. -/
def waitDisconnected (w : Wifi) : List StaEvent → Bool × Wifi
  | [] =>
      if w.disconnectedBit || w.failedBit then
        (w.disconnectedBit, { w with disconnectedBit := false, failedBit := false })
      else (false, w)
  | e :: es =>
      if w.disconnectedBit || w.failedBit then
        (w.disconnectedBit, { w with disconnectedBit := false, failedBit := false }.deliver (e :: es))
      else (w.eventHandler e).waitDisconnected es

/-! ## Connecting and disconnecting -/

/-- The first part of `WiFi::__connect`, up to the call of `esp_wifi_connect`. -/
def issueConnect (w : Wifi) : Wifi :=
  { w with connectFlag := true, history := .connectIssued w.staConfig :: w.history }

/-- `WiFi::__connect`: 0 is success. -/
def connectPrivate (w : Wifi) (s : WaitScript) : UInt8 × Wifi :=
  let r := (w.issueConnect.deliver s.before).waitConnected s.during
  if r.1 then (0, { r.2 with connected := true }) else (1, r.2)

/-- `WiFi::__disconnect`. -/
def disconnectPrivate (w : Wifi) (s : WaitScript) : Bool × Wifi :=
  let r := ({ w with connectFlag := false }.deliver s.before).waitDisconnected s.during
  if r.1 then (true, { r.2 with connected := false }) else (false, r.2)

/-- `WiFi::connect`: 0 is success. -/
def connect (w : Wifi) (s : WaitScript) : UInt8 × Wifi :=
  if w.credentials.ssid = [] then (1, w)
  else
    let w := { w with count := w.count + 1 }
    if w.connected then (0, w) else w.connectPrivate s

/-- `WiFi::disconnect`. -/
def disconnect (w : Wifi) (s : WaitScript) : Bool × Wifi :=
  if w.credentials.ssid = [] then (false, w)
  else
    let w := { w with count := w.count - 1 }
    if w.count = 0 then w.disconnectPrivate s else (false, w)

/-- `WiFi::isConnected`. -/
def isConnected (w : Wifi) : Bool := w.connected

/-- `WiFi::writeCredentials`; `opens` says whether the file could be opened. -/
def writeCredentials (w : Wifi) (c : Credentials) (opens : Bool) : Wifi :=
  { w with
    credentials := c
    credentialsFile := if opens then some c else w.credentialsFile
    history := .stored c :: w.history }

/-! ## New credentials over BLE -/

/-- What happens around one call of `bleWriteCredentials`: the station events at each of its waits, and
those between `esp_wifi_stop` and the new request. -/
structure CredentialsScript where
  stop : WaitScript
  starting : List StaEvent
  connect : WaitScript
  release : WaitScript
  opens : Bool
  fallback : WaitScript

/-- `bleWriteCredentials` up to the call of `__connect`: an existing connection is given up and the
station is configured with the new credentials. -/
def prepareCredentials (w : Wifi) (s : CredentialsScript) (new : Credentials) : Wifi :=
  let w := if w.isConnected then (w.disconnectPrivate s.stop).2 else w
  (w.setConfig new).deliver s.starting

/-- `WiFi::bleWriteCredentials`. -/
def bleWriteCredentials (w : Wifi) (s : CredentialsScript) (new : Credentials) : Bool × Wifi :=
  let r := (w.prepareCredentials s new).connectPrivate s.connect
  if r.1 = 0 then
    let w := if r.2.count = 0 then (r.2.disconnectPrivate s.release).2 else r.2
    (true, w.writeCredentials new s.opens)
  else
    let w := r.2
    if w.count = 0 then (false, w)
    else (false, ((w.setConfig w.credentials).connectPrivate s.fallback).2)

/-- What can happen to the object between boot and power-off. -/
inductive Event where
  | station (e : StaEvent)
  | init
  | configSdCardCredentials
  | connect (s : WaitScript)
  | disconnect (s : WaitScript)
  | bleWriteCredentials (s : CredentialsScript) (new : Credentials)

def step (w : Wifi) : Event → Wifi
  | .station e => w.eventHandler e
  | .init => w.init.2
  | .configSdCardCredentials => w.configSdCardCredentials.2
  | .connect s => (w.connect s).2
  | .disconnect s => (w.disconnect s).2
  | .bleWriteCredentials s new => (w.bleWriteCredentials s new).2

/-! ## What the waits do -/

@[simp] theorem deliver_nil (w : Wifi) : w.deliver [] = w := rfl

@[simp] theorem deliver_cons (w : Wifi) (e : StaEvent) (es : List StaEvent) :
    w.deliver (e :: es) = (w.eventHandler e).deliver es := rfl

theorem eventHandler_connectedBit (w : Wifi) (e : StaEvent) :
    (w.eventHandler e).connectedBit = (w.connectedBit || decide (e = .staGotIp)) := by
  cases e with
  | staDisconnected => cases h : w.connectFlag <;> simp [eventHandler, h]
  | staGotIp => simp [eventHandler]

theorem eventHandler_history (w : Wifi) (e : StaEvent) :
    (w.eventHandler e).history = .reported e :: w.history := by
  cases e with
  | staDisconnected => cases h : w.connectFlag <;> simp [eventHandler, h]
  | staGotIp => rfl

/-- `eventHandler` writes the two bits and nothing else the box reads. -/
theorem eventHandler_frame (w : Wifi) (e : StaEvent) :
    (w.eventHandler e).failedBit = w.failedBit ∧ (w.eventHandler e).count = w.count ∧
      (w.eventHandler e).connected = w.connected ∧
      (w.eventHandler e).staConfig = w.staConfig := by
  cases e with
  | staDisconnected => cases h : w.connectFlag <;> simp [eventHandler, h]
  | staGotIp => simp [eventHandler]

theorem deliver_connectedBit (w : Wifi) (es : List StaEvent) :
    (w.deliver es).connectedBit = (w.connectedBit || decide (StaEvent.staGotIp ∈ es)) := by
  induction es generalizing w with
  | nil => simp
  | cons e es ih =>
      rw [deliver_cons, ih, eventHandler_connectedBit, Bool.or_assoc]
      congr 1
      simp [eq_comm]

theorem deliver_history (w : Wifi) (es : List StaEvent) :
    (w.deliver es).history = (es.map WifiAction.reported).reverse ++ w.history := by
  induction es generalizing w with
  | nil => rfl
  | cons e es ih => rw [deliver_cons, ih, eventHandler_history]; simp

theorem deliver_frame (w : Wifi) (es : List StaEvent) :
    (w.deliver es).failedBit = w.failedBit ∧ (w.deliver es).count = w.count ∧
      (w.deliver es).connected = w.connected ∧ (w.deliver es).staConfig = w.staConfig := by
  induction es generalizing w with
  | nil => exact ⟨rfl, rfl, rfl, rfl⟩
  | cons e es ih =>
      obtain ⟨h1, h2, h3, h4⟩ := ih (w.eventHandler e)
      obtain ⟨g1, g2, g3, g4⟩ := eventHandler_frame w e
      exact ⟨h1.trans g1, h2.trans g2, h3.trans g3, h4.trans g4⟩

/-- How a wait ends: behind some of the events with its bit or the failed bit set, which it clears, or
not at all. `wait` is either of the two waits, `bit` the bit it waits on. -/
theorem wait_cases {wait : Wifi → List StaEvent → Bool × Wifi} {bit : Wifi → Bool}
    {clear : Wifi → Wifi}
    (hnil : ∀ w, wait w [] = if bit w || w.failedBit then (bit w, clear w) else (false, w))
    (hcons : ∀ w e es, wait w (e :: es) =
      if bit w || w.failedBit then (bit w, (clear w).deliver (e :: es))
      else wait (w.eventHandler e) es)
    (w : Wifi) (es : List StaEvent) :
    (∃ before after, es = before ++ after ∧
        (bit (w.deliver before) || (w.deliver before).failedBit) = true ∧
        wait w es = (bit (w.deliver before), (clear (w.deliver before)).deliver after)) ∨
      (bit (w.deliver es) = false ∧ wait w es = (false, w.deliver es)) := by
  induction es generalizing w with
  | nil =>
      rw [hnil]
      split
      · next hset => exact .inl ⟨[], [], rfl, hset, rfl⟩
      · next hclear => exact .inr ⟨(Bool.or_eq_false_iff.1 (by simpa using hclear)).1, rfl⟩
  | cons e es ih =>
      rw [hcons]
      split
      · next hset => exact .inl ⟨[], e :: es, rfl, hset, rfl⟩
      · rcases ih (w.eventHandler e) with ⟨before, after, rfl, hset, heq⟩ | ⟨hclear, heq⟩
        · exact .inl ⟨e :: before, after, rfl, hset, heq⟩
        · exact .inr ⟨hclear, heq⟩

theorem waitConnected_cases (w : Wifi) (es : List StaEvent) :
    (∃ before after, es = before ++ after ∧
        ((w.deliver before).connectedBit || (w.deliver before).failedBit) = true ∧
        w.waitConnected es = ((w.deliver before).connectedBit,
          { w.deliver before with connectedBit := false, failedBit := false }.deliver after)) ∨
      ((w.deliver es).connectedBit = false ∧ w.waitConnected es = (false, w.deliver es)) :=
  @wait_cases waitConnected connectedBit
    (fun w => { w with connectedBit := false, failedBit := false })
    (fun _ => rfl) (fun _ _ _ => rfl) w es

theorem waitDisconnected_cases (w : Wifi) (es : List StaEvent) :
    (∃ before after, es = before ++ after ∧
        ((w.deliver before).disconnectedBit || (w.deliver before).failedBit) = true ∧
        w.waitDisconnected es = ((w.deliver before).disconnectedBit,
          { w.deliver before with disconnectedBit := false, failedBit := false }.deliver after)) ∨
      ((w.deliver es).disconnectedBit = false ∧ w.waitDisconnected es = (false, w.deliver es)) :=
  @wait_cases waitDisconnected disconnectedBit
    (fun w => { w with disconnectedBit := false, failedBit := false })
    (fun _ => rfl) (fun _ _ _ => rfl) w es

/-- A value that neither an event nor the bits cleared by a wait change. -/
structure Unaffected {α : Type} (value : Wifi → α) : Prop where
  event : ∀ (w : Wifi) (e : StaEvent), value (w.eventHandler e) = value w
  connectedBits : ∀ w : Wifi, value { w with connectedBit := false, failedBit := false } = value w
  disconnectedBits : ∀ w : Wifi,
    value { w with disconnectedBit := false, failedBit := false } = value w

section

variable {α : Type} {value : Wifi → α}

theorem Unaffected.deliver (h : Unaffected value) (w : Wifi) (es : List StaEvent) :
    value (w.deliver es) = value w := by
  induction es generalizing w with
  | nil => rfl
  | cons e es ih => rw [deliver_cons, ih, h.event]

theorem Unaffected.waitConnected (h : Unaffected value) (w : Wifi) (es : List StaEvent) :
    value (w.waitConnected es).2 = value w := by
  rcases waitConnected_cases w es with ⟨before, after, -, -, heq⟩ | ⟨-, heq⟩
  · rw [heq, h.deliver, h.connectedBits, h.deliver]
  · rw [heq, h.deliver]

theorem Unaffected.waitDisconnected (h : Unaffected value) (w : Wifi) (es : List StaEvent) :
    value (w.waitDisconnected es).2 = value w := by
  rcases waitDisconnected_cases w es with ⟨before, after, -, -, heq⟩ | ⟨-, heq⟩
  · rw [heq, h.deliver, h.disconnectedBits, h.deliver]
  · rw [heq, h.deliver]

end

theorem unaffected_count : Unaffected Wifi.count :=
  ⟨fun w e => (eventHandler_frame w e).2.1, fun _ => rfl, fun _ => rfl⟩

theorem unaffected_connected : Unaffected Wifi.connected :=
  ⟨fun w e => (eventHandler_frame w e).2.2.1, fun _ => rfl, fun _ => rfl⟩

/-- A wait on the connected bit, for an object whose failed bit is clear: it sees the bit exactly when
it was set or is set meanwhile. -/
theorem waitConnected_spec (w : Wifi) (es : List StaEvent) (hfail : w.failedBit = false) :
    (w.waitConnected es).1 = (w.connectedBit || decide (StaEvent.staGotIp ∈ es)) ∧
      (w.waitConnected es).2.history = (es.map WifiAction.reported).reverse ++ w.history ∧
      (w.waitConnected es).2.failedBit = false ∧ (w.waitConnected es).2.count = w.count := by
  have hcount := unaffected_count.waitConnected w es
  rcases waitConnected_cases w es with ⟨before, after, rfl, hset, heq⟩ | ⟨hclear, heq⟩
  · obtain ⟨hfail', -⟩ := deliver_frame w before
    rw [hfail', hfail, Bool.or_false] at hset
    rw [heq] at hcount ⊢
    refine ⟨?_, ?_, (deliver_frame _ after).1, hcount⟩
    · rw [deliver_connectedBit] at hset ⊢
      simp only [Bool.or_eq_true, decide_eq_true_eq] at hset
      rcases hset with hset | hset <;> simp [hset]
    · rw [deliver_history]
      dsimp only
      rw [deliver_history]
      simp
  · rw [heq] at hcount ⊢
    rw [deliver_connectedBit] at hclear
    exact ⟨hclear.symm, deliver_history w es, (deliver_frame w es).1.trans hfail, hcount⟩

/-- A wait on the disconnected bit leaves the connected bit to the events. -/
theorem waitDisconnected_spec (w : Wifi) (es : List StaEvent) (hfail : w.failedBit = false) :
    (w.waitDisconnected es).2.connectedBit =
        (w.connectedBit || decide (StaEvent.staGotIp ∈ es)) ∧
      (w.waitDisconnected es).2.history = (es.map WifiAction.reported).reverse ++ w.history ∧
      (w.waitDisconnected es).2.failedBit = false := by
  rcases waitDisconnected_cases w es with ⟨before, after, rfl, -, heq⟩ | ⟨-, heq⟩
  · rw [heq]
    refine ⟨?_, ?_, (deliver_frame _ after).1⟩
    · rw [deliver_connectedBit]
      dsimp only
      rw [deliver_connectedBit, Bool.or_assoc]
      simp [List.mem_append]
    · rw [deliver_history]
      dsimp only
      rw [deliver_history]
      simp
  · rw [heq]
    exact ⟨deliver_connectedBit w es, deliver_history w es, (deliver_frame w es).1.trans hfail⟩

end Wifi

end Cubbies
