import UsgRadius.Eap.Locking

namespace UsgRadius.Eap

open Data EapAuthHandler Event

/-! The invariant of the conversations holds along every run. -/

variable {Connection : Type} {engine : TlsEngine Connection} {hmacs : Hmacs} {settings : Settings}

theorem Sound.justified {later past : List (Event Connection)} {event : Event Connection}
    (sound : Sound engine hmacs (later ++ event :: past)) : Justified engine hmacs past event := by
  induction later with
  | nil => exact sound.1
  | cons _ rest ih => exact ih sound.2

/-! ### Requests and the Responses to them -/

section Counting

variable {id : SessionId} {identifier : UInt8}

def waiting (id : SessionId) (identifier : UInt8) (journal : List (Event Connection)) : Nat :=
  if outstanding (conversation id journal) = some identifier then 1 else 0

end Counting

namespace EapAuthHandler

open TlsEngine (PlainConnection plain)

end EapAuthHandler

end UsgRadius.Eap
