import Cubbies.Lib.CString
import Mathlib.Tactic.Common

set_option autoImplicit false

/-! # Requests to the server

`esp_http_client_perform` calls an event handler while it runs. An `Exchange` is what it does during
one request: the headers and body chunks it passes on, how it ends, and the QBus read frames another
task processes meanwhile. `perform` runs a handler, given as a `Callback`, over one exchange. -/

namespace Cubbies

open CString

/-- The eight UID bytes of a read frame: all zeros when there is no tag. -/
abbrev Uid := { bytes : Bytes // bytes.length = 8 }

/-- The text `QBSlaveProcessFrame` prints into `tagUid_qbus`. -/
def uidText (uid : Uid) : Bytes := uid.val.flatMap hexByte

inductive HttpEvent where
  /-- `HTTP_EVENT_ON_HEADER` -/
  | onHeader (key value : Bytes)
  /-- `HTTP_EVENT_ON_DATA` -/
  | onData (data : Bytes)
  /-- not an event of the client: a QBus read frame with this UID is processed -/
  | frame (uid : Uid)

/-- How a request ends: with `HTTP_EVENT_ON_FINISH`, with `HTTP_EVENT_DISCONNECTED`, or because there
was no connection. `esp_http_client_perform` returns `ESP_OK` only for the first. -/
inductive Ending where
  | finished
  | disconnected
  | unreachable
  deriving DecidableEq

structure Exchange where
  events : List HttpEvent
  ending : Ending
  /-- `esp_http_client_get_status_code` -/
  status : ℤ
  /-- the frames processed between the last event and the caller's next action -/
  after : List Uid
  /-- without a connection nothing is delivered -/
  delivered : ending = .unreachable → ∀ e ∈ events, ∃ uid, e = .frame uid

namespace Exchange

/-- Whether `esp_http_client_perform` returns `ESP_OK`. -/
def ok (x : Exchange) : Bool := x.ending = .finished

/-- The bytes of an event's chunk. -/
def chunk : HttpEvent → Bytes
  | .onData data => data
  | _ => []

/-- The body received: all chunks in order. -/
def body (x : Exchange) : Bytes := x.events.flatMap chunk

/-- The chunk of an event that has one. -/
def chunk? : HttpEvent → Option Bytes
  | .onData data => some data
  | _ => none

/-- The chunks the body arrived in. -/
def chunks (x : Exchange) : List Bytes := x.events.filterMap chunk?

theorem body_eq_flatten (x : Exchange) : x.body = x.chunks.flatten := by
  unfold body chunks
  induction x.events with
  | nil => rfl
  | cons e es ih => cases e <;> simp [chunk, chunk?, List.filterMap_cons, ih]

/-- The frames processed during the exchange. -/
def frames (x : Exchange) : List Uid :=
  (x.events.filterMap fun
    | .frame uid => some uid
    | _ => none) ++ x.after

/-- The exchange with the frames left out. -/
def atomic (x : Exchange) : Exchange where
  events := x.events.filter fun
    | .frame _ => false
    | _ => true
  ending := x.ending
  status := x.status
  after := []
  delivered := by
    intro h e he
    obtain ⟨uid, rfl⟩ := x.delivered h e (List.mem_of_mem_filter he)
    simp at he

end Exchange

/-- An event handler over the state `σ` of the program. -/
structure Callback (σ : Type*) where
  onHeader : σ → Bytes → Bytes → σ
  onData : σ → Bytes → σ
  onFinish : σ → σ
  onDisconnected : σ → σ

namespace Callback

variable {σ : Type*}

def handle (cb : Callback σ) (frame : σ → Uid → σ) (s : σ) : HttpEvent → σ
  | .onHeader key value => cb.onHeader s key value
  | .onData data => cb.onData s data
  | .frame uid => frame s uid

def close (cb : Callback σ) (s : σ) : Ending → σ
  | .finished => cb.onFinish s
  | .disconnected => cb.onDisconnected s
  | .unreachable => s

/-- `esp_http_client_perform` with this handler: whether it returns `ESP_OK`. -/
def perform (cb : Callback σ) (frame : σ → Uid → σ) (s : σ) (x : Exchange) : Bool × σ :=
  (x.ok, x.after.foldl frame (cb.close (x.events.foldl (cb.handle frame) s) x.ending))

theorem foldl_handle_induction {P : σ → Prop} {cb : Callback σ} {frame : σ → Uid → σ} {s : σ}
    {es : List HttpEvent} (hs : P s) (hheader : ∀ s key value, P s → P (cb.onHeader s key value))
    (hdata : ∀ s data, P s → P (cb.onData s data))
    (hframe : ∀ s uid, HttpEvent.frame uid ∈ es → P s → P (frame s uid)) :
    P (es.foldl (cb.handle frame) s) := by
  induction es generalizing s with
  | nil => exact hs
  | cons e es ih =>
      refine ih ?_ fun s uid hmem => hframe s uid (List.mem_cons_of_mem _ hmem)
      cases e with
      | onHeader key value => exact hheader s key value hs
      | onData data => exact hdata s data hs
      | frame uid => exact hframe s uid List.mem_cons_self hs

theorem foldl_frame_induction {P : σ → Prop} {frame : σ → Uid → σ} {s : σ} {uids : List Uid}
    (hs : P s) (hframe : ∀ s, ∀ uid ∈ uids, P s → P (frame s uid)) : P (uids.foldl frame s) := by
  induction uids generalizing s with
  | nil => exact hs
  | cons uid uids ih =>
      exact ih (hframe s uid List.mem_cons_self hs)
        fun s uid hmem => hframe s uid (List.mem_cons_of_mem _ hmem)

/-- What every branch of a handler and every frame keeps, the exchange keeps. -/
theorem perform_induction {P : σ → Prop} {cb : Callback σ} {frame : σ → Uid → σ} {s : σ}
    {x : Exchange} (hs : P s) (hheader : ∀ s key value, P s → P (cb.onHeader s key value))
    (hdata : ∀ s data, P s → P (cb.onData s data)) (hfinish : ∀ s, P s → P (cb.onFinish s))
    (hdisconnected : ∀ s, P s → P (cb.onDisconnected s))
    (hframe : ∀ s, ∀ uid ∈ x.frames, P s → P (frame s uid)) : P (cb.perform frame s x).2 := by
  have hevents : P (x.events.foldl (cb.handle frame) s) :=
    foldl_handle_induction hs hheader hdata fun s uid hmem =>
      hframe s uid (List.mem_append_left _ (List.mem_filterMap.2 ⟨_, hmem, rfl⟩))
  refine foldl_frame_induction ?_ fun s uid hmem => hframe s uid (List.mem_append_right _ hmem)
  cases hend : x.ending with
  | finished => exact hfinish _ hevents
  | disconnected => exact hdisconnected _ hevents
  | unreachable => exact hevents

end Callback

end Cubbies
