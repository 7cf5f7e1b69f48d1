import DnsWarden.Command
import DnsWarden.Process
import DnsWarden.Simulation.Shell.Run
import DnsWarden.Text.Lines

/-!
# Children of the engine

What comes of a command that the engine starts, for the shell and a few programs: the failure to
start, or the lines on both streams and the way in which the child ends.
-/

namespace DnsWarden

/-- What is left of a child. -/
structure Child where
  out : List String := []
  err : List String := []
  note : ExitNote

namespace Child

/-- The lines of a stream of bytes up to the first one that is no text. -/
def textLines (bytes : ByteArray) : List String :=
  let ls := lines (bytes.toList.map fun b => Char.ofNat b.toNat)
  let decode (l : List Char) : Option String :=
    String.fromUTF8? ⟨(l.map fun c => UInt8.ofNat c.toNat).toArray⟩
  ((ls.map decode).takeWhile Option.isSome).filterMap id

/-- The notice of a child's end: to have been stopped is the only end that is no failure. -/
def noteOf : Shell.Flow → Option ExitNote
  | .ended s => some (.failed (.exited s))
  | .stopped => some .clean
  | _ => none

/-- A child that a script has run. -/
def ofRun (r : Shell.State × Shell.Flow) (stopAfter : Option Nat) : Option Child :=
  let note := match noteOf r.2 with
    | some note => some note
    | none => if stopAfter.isSome then some .clean else none
  note.map fun note => { out := textLines r.1.out, err := textLines r.1.err, note }

/-- What a shell does with its arguments. -/
def shell (args : List String) (stopAfter : Option Nat) : Option Child :=
  match args with
  | "-c" :: text :: rest =>
    let s : Shell.State := { name := rest.head?.getD "sh", args := rest.drop 1, stopAfter }
    ofRun (Shell.runScript s text) stopAfter
  | _ => none

/-- The directories in which there is nothing but what the system needs. -/
def refusal? (program : String) : Option IoFailure :=
  if program.toList.contains '\x00' then
    some (.custom "nul byte found in provided data")
  else if program.isEmpty then some (.os 2)
  else if "/etc/passwd/".toList.isPrefixOf program.toList then some (.os 20)
  else if ["/", "/etc", "/tmp", "/etc/passwd", ".", ".."].contains program then some (.os 13)
  else if program.toList.contains '/' && ["/bin/", "/usr/bin/"].all (fun d =>
      !d.toList.isPrefixOf program.toList) then some (.os 2)
  else none

/-- Starts a command and follows it to its end, with the number of lines after which it is stopped. -/
def start (c : Command) (detail : UInt8) (stopAfter : Option Nat) :
    Except EngineFault (Option Child) :=
  let args := c.arguments detail
  match refusal? c.program with
  | some e => .error (.io e)
  | none =>
    if args.any fun a => a.toList.contains '\x00' then
      .error (.io (.custom "nul byte found in provided data"))
    else
      let name := String.ofList (c.program.toList.reverse.takeWhile (· ≠ '/')).reverse
      if name = "sh" || name = "dash" then .ok (shell args stopAfter)
      else
        let s : Shell.State := { name, args := [], stopAfter }
        match Shell.perform s {} name (args.map String.toList) with
        | some (s, .next) => .ok (ofRun (s, .ended (.exited s.code)) stopAfter)
        | some r => .ok (ofRun r stopAfter)
        | none => .error (.io (.os 2))

end Child

end DnsWarden
