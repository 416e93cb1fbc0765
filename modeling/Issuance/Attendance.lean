import Issuance.Office
/-!
Attendance: check-ins, and who may receive a certificate.
-/

namespace Issuance

/-- The status in which a registration can be checked in and served. -/
def eligibleStatus : String := "confirmed"

namespace Ledger

def isEligible (l : Ledger) (r : Registration) : Bool :=
  r.status == eligibleStatus && (l.attendance? r.id).isSome

abbrev Attendee := Registration × Moment

/-- Earlier check-ins come first, and of equal ones the lower id. -/
def cameBefore (a b : Attendee) : Bool :=
  a.2.ticks < b.2.ticks || (a.2.ticks == b.2.ticks && a.1.id ≤ b.1.id)

/-- The eligible registrations of an event with their check-ins, in order of check-in. -/
def attendees (l : Ledger) (eventId : Int) : List Attendee :=
  let here := l.registrations.filter fun r => r.eventId == eventId && r.status == eligibleStatus
  (here.filterMap fun r =>
    (l.attendance? r.id).map fun attendance => (r, attendance.checkedInAt)).mergeSort cameBefore

def eligible (l : Ledger) (eventId : Int) : List Registration :=
  (l.attendees eventId).map (·.1)

/-- Writes down a check-in; a second one of a registration replaces the time of the first. -/
def recordCheckIn (l : Ledger) (registrationId : Int) (time : Moment) : Attendance × Ledger :=
  match l.attendance? registrationId with
  | some attendance =>
    let changed := { attendance with checkedInAt := time }
    (changed, { l with
      attendances := l.attendances.map fun a => if a.id = attendance.id then changed else a })
  | none =>
    let added := ⟨nextId (l.attendances.map (·.id)), registrationId, time⟩
    (added, { l with attendances := l.attendances ++ [added] })

end Ledger

/-- Checks in a registration, at a given time or now. Only a confirmed one can be checked in. -/
def checkIn (registration : Registration) (time : Option Moment) : Work Attendance := do
  if registration.status != eligibleStatus then throw (.defect .refusedCheckIn)
  let office ← get
  let (attendance, ledger) :=
    office.ledger.recordCheckIn registration.id (time.getD office.clock).naive
  set { office with ledger }
  return attendance

end Issuance
