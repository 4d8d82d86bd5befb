import Cubbies.Tasks

set_option autoImplicit false

/-! # The box behind its bus (`iot_qbus.cpp`, `iot_qbus_port.cpp`)

`QbusInit` starts the slave on `qbusBuff`. From then on the UART task hands it the bytes that come in,
the QBus task polls it every ten milliseconds, and the handler, the BLE server, the audio pipeline and
the WiFi station act on the box behind it. A step is one byte, one poll or one step of another task, at
any time and in any order; `uart_event_task` hands over the bytes of an event one after the other, so
how the driver cuts the stream into events makes no difference. -/

namespace Cubbies

/-- A read or a write frame. -/
def BoxEvent.isFrame : BoxEvent → Bool
  | .read _ _ => true
  | .write _ _ _ _ => true
  | _ => false

inductive StackEvent where
  /-- `byteReceived` -/
  | byte (now : ℕ) (recvChar : UInt8)
  /-- `QbusHandler` -/
  | poll (now : ℕ)
  /-- a step of another task -/
  | task (e : BoxEvent)

/-- `QbusInit`: the slave on `qbusBuff[100]`, started. -/
def qbusInit (now : ℕ) (b : Box) : QBSlave Box :=
  qbSlaveStart (qbSlaveInit now (List.replicate 100 0) b)

/-- One step of the box behind its bus. Frames come in over the bus only. -/
def QBSlave.stackStep [CJson] (q : QBSlave Box) : StackEvent → Option (QBSlave Box)
  | .byte now recvChar => some (qbSlavePortByteReceived q recvChar now)
  | .poll now => some (qbSlavePoll q now)
  | .task e => if e.isFrame then none else (q.app.step e).map fun app => { q with app := app }

end Cubbies
