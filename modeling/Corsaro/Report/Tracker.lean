import Corsaro.Report.Tally
import Corsaro.Report.Outstanding

/-! The IP tracker thread, `start_iptracker`: one pass of its loop per received
message. The mutex sections are atomic steps; `usleep` polling, logging and the
memory handlers are left out. A failed C assertion is a `Fault`. -/
namespace Corsaro.Report

def ipMessageHalt : Nat := 0

def ipMessageInterval : Nat := 1

/-- `corsaro_report_ip_message_t`; any `msgtype` other than HALT and INTERVAL takes the update
branch. -/
structure IpMessage where
  msgtype : Nat
  sender : Nat
  timestamp : Nat
  update : List MsgBody

/-- `corsaro_report_iptracker_t`: `curr` is `knownips` with `currentresult`, `next` `knownips_next`
with `nextresult`. -/
structure Tracker where
  lastresultts : Nat
  sourcethreads : Nat
  haltphase : Nat
  curr : IntervalMaps
  next : IntervalMaps
  lastresult : Option TallyMap
  outstanding : List OutInterval

def Tracker.init (sourcethreads : Nat) : Tracker :=
  ⟨0, sourcethreads, 0, .empty, .empty, none, []⟩

inductive Fault
  | intervalsOutOfOrder
  | resultNotConsumed
  deriving DecidableEq, Repr

/-- `process_msg_body`: a sender that has ended an outstanding interval updates the next maps. -/
def processMsgBody (t : Tracker) (sender : Nat) (body : MsgBody) : Tracker :=
  if t.outstanding.length = 0 then { t with curr := t.curr.applyBody body }
  else if senderInOutstanding t.outstanding sender then { t with next := t.next.applyBody body }
  else { t with curr := t.curr.applyBody body }

/-- The end-of-interval block of `start_iptracker`: publish the current tally and rotate the maps.
-/
def Tracker.finishInterval (t : Tracker) (outl : List OutInterval) (complete : Nat) : Tracker :=
  { t with
    outstanding := outl
    lastresult := some t.curr.tally
    lastresultts := complete
    haltphase := if t.haltphase = 1 then 2 else t.haltphase
    curr := t.next
    next := .empty }

/-- The INTERVAL branch of `start_iptracker`: ignore timestamp 0 and intervals already tallied. -/
def handleInterval (t : Tracker) (sender ts : Nat) : Except Fault Tracker :=
  if ts = 0 then .ok t
  else if ts ≤ t.lastresultts then .ok t
  else match updateOutstanding t.outstanding ts t.sourcethreads sender with
    | none => .error .intervalsOutOfOrder
    | some (outl, complete) =>
      if complete = 0 then .ok { t with outstanding := outl }
      else if t.lastresult.isSome then .error .resultNotConsumed
      else .ok (t.finishInterval outl complete)

def handleMessage (t : Tracker) (msg : IpMessage) : Except Fault Tracker :=
  if msg.msgtype = ipMessageHalt then
    .ok { t with haltphase := if t.outstanding.length = 0 then 2 else 1 }
  else if msg.msgtype = ipMessageInterval then handleInterval t msg.sender msg.timestamp
  else .ok (msg.update.foldl (fun t body => processMsgBody t msg.sender body) t)

/-- The loop `while (track->haltphase != 2)`: once the phase is 2 the thread has exited and reads
nothing more. -/
def trackerStep (t : Tracker) (msg : IpMessage) : Except Fault Tracker :=
  if t.haltphase = 2 then .ok t else handleMessage t msg

def runTracker (t : Tracker) (msgs : List IpMessage) : Except Fault Tracker :=
  msgs.foldlM trackerStep t

def Tracker.collect (t : Tracker) : Tracker := { t with lastresult := none }

/-- With one processing thread, the first interval end of an interval creates
its entry with one report and returns without comparing the total to the
limit of 1, so no interval ever finishes. -/
theorem single_sender_never_finishes :
    (runTracker (Tracker.init 1)
      [⟨ipMessageInterval, 0, 1, []⟩, ⟨ipMessageInterval, 0, 2, []⟩]).toOption.map
      (fun t => (t.lastresult.isSome, t.lastresultts, t.outstanding.map OutInterval.intervalTs)) =
      some (false, 0, [1, 2]) := by
  decide

/-- Two senders end intervals 1 and 2 before the merge thread reads the first
tally: the second completion reaches `assert(0)`. -/
theorem second_interval_before_merge_faults :
    runTracker (Tracker.init 2)
      [⟨ipMessageInterval, 0, 1, []⟩, ⟨ipMessageInterval, 1, 1, []⟩,
       ⟨ipMessageInterval, 0, 2, []⟩, ⟨ipMessageInterval, 1, 2, []⟩] =
      .error .resultNotConsumed := rfl

/-- Sender 0 ends intervals 1 and 2 and halts before sender 1 ends interval 1:
the tracker exits in phase 2 with interval 2 still outstanding. -/
theorem halt_with_outstanding_interval :
    (runTracker (Tracker.init 2)
      [⟨ipMessageInterval, 0, 1, []⟩, ⟨ipMessageInterval, 0, 2, []⟩,
       ⟨ipMessageHalt, 0, 0, []⟩, ⟨ipMessageInterval, 1, 1, []⟩]).toOption.map
      (fun t => (t.haltphase, t.outstanding.map OutInterval.intervalTs)) = some (2, [2]) := by
  decide

end Corsaro.Report
