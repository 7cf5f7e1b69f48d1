import DnsWarden.Warden.Desk

/-!
# The refresher

The task that refreshes the resolver's files and restarts it once a period.  A restart is skipped if
the refresh fails; after any other the schedule is set for a whole period.  When the period changes
meanwhile, the schedule is set again for what is left of it.
-/

namespace DnsWarden

/-- Where the refresher waits. -/
inductive Refresher where
  | unborn
  /-- For the next tick, or for word that the period has changed. -/
  | waiting (s : Schedule)
  /-- For a step of the refresh of the files. -/
  | refreshing (s : Schedule) (r : Refresh)
  /-- For the resolver to be stopped. -/
  | stopping (s : Schedule) (a : Ask)
  /-- For the resolver to be started again. -/
  | starting (s : Schedule) (a : Ask)
  | returned
  /-- Its period was too long for the clock. -/
  | broken
  /-- Nobody drives it any more. -/
  | dropped
deriving DecidableEq

/-- The desk, the refresher, and the word that the period has changed. -/
structure Warden where
  desk : Desk
  refresher : Refresher := .unborn
  /-- The refresher was told to end. -/
  cancelled : Bool := false
  /-- The period has changed, and the refresher has not taken note. -/
  periodChanged : Bool := false

/-- What can end a wait of the refresher. -/
inductive RefresherInput where
  | cancelled
  /-- The alarm rings. -/
  | rang
  /-- The period has changed. -/
  | periodChanged
  | answer (a : Answer)
  /-- The next step of a change of status. -/
  | ask
deriving DecidableEq

namespace Warden

def scene (o : Warden) : Scene := o.desk.scene

def update (o : Warden) (f : Scene → Scene) : Warden := { o with desk := o.desk.update f }

def wait (o : Warden) (r : Refresher) : Warden := { o with refresher := r }

/-- Waits with the schedule that is set from this period, or breaks if it cannot be set. -/
def scheduled (o : Warden) (period : Duration) (set? : Duration → Option Schedule) : Warden :=
  match set? period with
  | some s => (o.update (·.record (.scheduled period))).wait (.waiting s)
  | none => o.wait .broken

/-- Begins with a whole period. -/
def beginRefresher (o : Warden) : Warden :=
  o.scheduled o.scene.settings.updatePeriod (Schedule.start? o.scene.now)

/-- Begins a restart: with a refresh of the files, unless no resolver is up. -/
def restart (o : Warden) : Warden :=
  let o := o.update (·.record .ticked)
  let s := Schedule.tick o.scene.now
  if o.scene.status = .running then
    let (c, r) := Refresh.begin o.scene
    (o.update fun _ => c).wait (.refreshing s r)
  else o.wait (.stopping s .arriving)

/-- Goes on after the refresh of the files. -/
def refreshed (o : Warden) (s : Schedule) : Option RefreshFault → Warden
  | none => o.wait (.stopping s .arriving)
  | some f =>
    (o.update fun c => ((c.setStatus .crashed).tell (.refreshFailed f)).tell .restartSkipped).wait
      (.waiting s)

/-- Goes on once the resolver was stopped, or could not be. -/
def stopped (o : Warden) (s : Schedule) (result : Except CallFault StatusOutcome) : Warden :=
  (match result with
    | .ok _ => o
    | .error f => o.update (·.tell (.cannotStop f))).wait (.starting s .arriving)

/-- Goes on once the resolver was started again, or could not be. -/
def started (o : Warden) (s : Schedule) (result : Except CallFault StatusOutcome) : Warden :=
  let o := o.update fun c => match result with
    | .ok _ => c.tally fun t => { t with restarts := t.restarts + 1 }
    | .error f => c.tell (.cannotStart f)
  o.scheduled o.scene.settings.updatePeriod (s.rearm? o.scene.now)

/-- The refresher gives up its place at the desk, if it has one. -/
def abandon (o : Warden) : Warden :=
  match o.refresher with
  | .stopping _ a => { o with desk := o.desk.abandon .refresher a }
  | .starting _ a => { o with desk := o.desk.abandon .refresher a }
  | _ => o

/-- Whether the refresher has begun and not ended. -/
def refreshes (o : Warden) : Bool :=
  match o.refresher with
  | .waiting _ | .refreshing _ _ | .stopping _ _ | .starting _ _ => true
  | _ => false

/-- The refresher goes on with what ended its wait. -/
def resume (o : Warden) (i : RefresherInput) : Option Warden :=
  match o.refresher, i with
  | .waiting s, .rang => if s.alarm.rings o.scene.now then some o.restart else none
  | .waiting s, .periodChanged =>
    if o.periodChanged then
      some (({ o with periodChanged := false } : Warden).scheduled o.scene.settings.updatePeriod
        (s.reschedule? o.scene.now))
    else none
  | .refreshing s r, .answer a =>
    (r.resume a o.scene).map fun
      | (c, .waiting r) => (o.update fun _ => c).wait (.refreshing s r)
      | (c, .done failure) => (o.update fun _ => c).refreshed s failure
  | .stopping s a, .ask =>
    (o.desk.step .refresher .stopped a).map fun
      | (d, .waiting a) => ({ o with desk := d } : Warden).wait (.stopping s a)
      | (d, .done result) => ({ o with desk := d } : Warden).stopped s result
  | .starting s a, .ask =>
    (o.desk.step .refresher .running a).map fun
      | (d, .waiting a) => ({ o with desk := d } : Warden).wait (.starting s a)
      | (d, .done result) => ({ o with desk := d } : Warden).started s result
  | _, .cancelled =>
    if o.cancelled && o.refreshes then some (o.abandon.wait .returned) else none
  | _, _ => none

/-- Drops the refresher where it waits. -/
def dropRefresher (o : Warden) : Warden := o.abandon.wait .dropped

/-- The call that the refresher waits for, if it waits for one. -/
def query? (o : Warden) : Option Query :=
  match o.refresher with
  | .refreshing _ r => some r.query
  | _ => none

/-- When the refresher's alarm rings, if it waits for that. -/
def deadline? (o : Warden) : Option Nat :=
  match o.refresher with
  | .waiting s => s.alarm.deadline
  | _ => none

end Warden

end DnsWarden
