import Cubbies.Proofs.CredentialsFresh

set_option autoImplicit false

/-! # What a failed credential update leaves

`bleWriteCredentials` gives the station the new credentials before it tries them, and stores them only
if they work. When they do not, it gives the stored ones back only while somebody uses the connection
(`if (count)`): with a use count of 0 the station keeps the rejected ones, and the next `connect` tries
them again. -/

namespace Cubbies

namespace Wifi

/-- What a wait does not touch. -/
structure Settings where
  count : ℤ
  credentials : Credentials
  credentialsFile : Option Credentials
  staConfig : Credentials

def settings (w : Wifi) : Settings := ⟨w.count, w.credentials, w.credentialsFile, w.staConfig⟩

theorem unaffected_settings : Unaffected settings := by
  refine ⟨fun w e => ?_, fun _ => rfl, fun _ => rfl⟩
  cases e with
  | staDisconnected => cases h : w.connectFlag <;> simp [eventHandler, settings, h]
  | staGotIp => rfl

theorem settings_connectPrivate (w : Wifi) (s : WaitScript) :
    (w.connectPrivate s).2.settings = w.settings := by
  have hwait : ((w.issueConnect.deliver s.before).waitConnected s.during).2.settings = w.settings := by
    rw [unaffected_settings.waitConnected, unaffected_settings.deliver]
    rfl
  unfold connectPrivate
  dsimp only
  split
  · exact hwait
  · exact hwait

theorem settings_disconnectPrivate (w : Wifi) (s : WaitScript) :
    (w.disconnectPrivate s).2.settings = w.settings := by
  have hwait : (({ w with connectFlag := false }.deliver s.before).waitDisconnected s.during).2.settings =
      w.settings := by
    rw [unaffected_settings.waitDisconnected, unaffected_settings.deliver]
    rfl
  unfold disconnectPrivate
  dsimp only
  split
  · exact hwait
  · exact hwait

/-- The station is configured with the new credentials, and nothing is stored. -/
theorem settings_prepareCredentials (w : Wifi) (s : CredentialsScript) (new : Credentials) :
    (w.prepareCredentials s new).settings = { w.settings with staConfig := new } := by
  unfold prepareCredentials
  rw [unaffected_settings.deliver]
  split
  · have hstop := settings_disconnectPrivate w s.stop
    generalize (w.disconnectPrivate s.stop).2 = w' at hstop
    show { w'.settings with staConfig := new } = _
    rw [hstop]
  · rfl

/-- A call that returns false gives the stored credentials back while there is somebody to connect
for. -/
theorem settings_of_failed {w : Wifi} {s : CredentialsScript} {new : Credentials}
    (h : (w.bleWriteCredentials s new).1 = false) :
    (w.bleWriteCredentials s new).2.settings =
      { w.settings with staConfig := if w.count = 0 then new else w.credentials } := by
  have hconnect : ((w.prepareCredentials s new).connectPrivate s.connect).2.settings =
      { w.settings with staConfig := new } := by
    rw [settings_connectPrivate, settings_prepareCredentials]
  unfold bleWriteCredentials at h ⊢
  generalize (w.prepareCredentials s new).connectPrivate s.connect = r at h hconnect ⊢
  have hcount : r.2.count = w.count := congrArg Settings.count hconnect
  have hstored : r.2.credentials = w.credentials := congrArg Settings.credentials hconnect
  dsimp only at h ⊢
  split
  · next hzero =>
      rw [if_pos hzero] at h
      cases h
  · rw [hcount]
    split
    · exact hconnect
    · rw [settings_connectPrivate]
      show { r.2.settings with staConfig := r.2.credentials } = _
      rw [hconnect, hstored]

/-! ## The next request -/

/-- An event is no request. -/
theorem unaffected_lastConnectConfig : Unaffected fun w => lastConnectConfig w.history := by
  refine ⟨fun w e => ?_, fun _ => rfl, fun _ => rfl⟩
  rw [eventHandler_history]
  rfl

/-- `connect` asks the driver with the station's configuration. -/
theorem lastConnectConfig_connect {w : Wifi} (hssid : w.credentials.ssid ≠ [])
    (hdown : w.connected = false) (s : WaitScript) :
    lastConnectConfig (w.connect s).2.history = some w.staConfig := by
  have hwait : ∀ w : Wifi, lastConnectConfig
      ((w.issueConnect.deliver s.before).waitConnected s.during).2.history = some w.staConfig := by
    intro w
    have hasked := (unaffected_lastConnectConfig.waitConnected _ s.during).trans
      (unaffected_lastConnectConfig.deliver w.issueConnect s.before)
    exact hasked
  unfold connect connectPrivate
  rw [if_neg hssid]
  dsimp only
  rw [if_neg (by rw [hdown]; decide)]
  split
  · exact hwait { w with count := w.count + 1 }
  · exact hwait { w with count := w.count + 1 }

/-- From `w` to `w'` nothing was stored, and the station is to use what is: also in a later `connect`,
whatever the station reports before. -/
structure NoTrace (w w' : Wifi) : Prop where
  credentials : w'.credentials = w.credentials
  file : w'.credentialsFile = w.credentialsFile
  config : w'.staConfig = w.credentials
  later : ∀ es s, w.credentials.ssid ≠ [] → (w'.deliver es).connected = false →
    lastConnectConfig ((w'.deliver es).connect s).2.history = some w.credentials

/-- **A failed credential update** leaves no trace exactly while the connection is in use, or when it
tried the stored credentials. -/
theorem bleWriteCredentials_noTrace_iff {w : Wifi} {s : CredentialsScript} {new : Credentials}
    (h : (w.bleWriteCredentials s new).1 = false) :
    NoTrace w (w.bleWriteCredentials s new).2 ↔ w.count ≠ 0 ∨ new = w.credentials := by
  have hsettings := settings_of_failed h
  generalize (w.bleWriteCredentials s new).2 = w' at hsettings ⊢
  have hstored : w'.credentials = w.credentials := congrArg Settings.credentials hsettings
  have hconfig : w'.staConfig = if w.count = 0 then new else w.credentials :=
    congrArg Settings.staConfig hsettings
  constructor
  · rintro ⟨-, -, hrestored, -⟩
    by_cases hcount : w.count = 0
    · rw [hrestored, if_pos hcount] at hconfig
      exact .inr hconfig.symm
    · exact .inl hcount
  · intro hgood
    have hrestored : w'.staConfig = w.credentials := by
      rw [hconfig]
      rcases hgood with hcount | hsame
      · rw [if_neg hcount]
      · rw [hsame, ite_self]
    refine ⟨hstored, congrArg Settings.credentialsFile hsettings, hrestored, ?_⟩
    intro es t hssid hdown
    have hlater := unaffected_settings.deliver w' es
    have hcredentials : (w'.deliver es).credentials = w.credentials :=
      (congrArg Settings.credentials hlater).trans hstored
    rw [lastConnectConfig_connect (by rw [hcredentials]; exact hssid) hdown]
    exact congrArg some ((congrArg Settings.staConfig hlater).trans hrestored)

/-! ## Wrong credentials on an idle box -/

/-- Credentials that nobody answers to. -/
def cafe : Credentials := ⟨CString.str "cafe", CString.str "wrong"⟩

/-- No station event at all. -/
def silentScript : CredentialsScript := ⟨⟨[], []⟩, [], ⟨[], []⟩, ⟨[], []⟩, true, ⟨[], []⟩⟩

/-- After boot, nobody uses the connection. -/
def idleWifi : Wifi := [Event.init, .configSdCardCredentials].foldl step (boot (some home))

/-- The station keeps the rejected credentials. -/
theorem cafe_keptByStation :
    ¬ ∀ (w : Wifi) (s : CredentialsScript) (new : Credentials),
      (w.bleWriteCredentials s new).1 = false → NoTrace w (w.bleWriteCredentials s new).2 := by
  intro h
  have hconfig := (h idleWifi silentScript cafe (by decide)).config
  revert hconfig
  decide

/-- With a connection that is in use they are given back. -/
theorem bleWriteCredentials_noTrace_iff_used :
    NoTrace { idleWifi with count := 1 }
      ({ idleWifi with count := 1 }.bleWriteCredentials silentScript cafe).2 :=
  (bleWriteCredentials_noTrace_iff (by decide)).2 (.inl (by decide))

end Wifi

end Cubbies
