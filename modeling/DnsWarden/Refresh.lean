import DnsWarden.Scene

/-!
# Refreshing the resolver's files

A refresh sets up the cryptographic files, builds the blocklists, and writes the resolver's
configuration with these in place of its own.  A blocklist that cannot be fetched is told and left
out; a failure of the other two steps ends the refresh.  A refresh works on the settings that were
stored when it began.
-/

namespace DnsWarden

/-- The blocklists that could be built, and why others could not. -/
structure BuiltLists where
  blocklist : Blocklist := {}
  failures : List BlocklistFault := []
deriving DecidableEq

/-- What a collaborator answers to a call. -/
inductive Answer where
  | filesSetUp (failure : Option WriterFault)
  | listsBuilt (lists : BuiltLists)
  | configWritten (failure : Option WriterFault)
  | started (failure : Option EngineFault)
  | systemPointed (failure : Option NameserverFault)
  | probed (failure : Option ProbeFault)
deriving DecidableEq

/-- The collaborator's call whose answer a task waits for. -/
inductive Query where
  | setUpFiles
  | buildLists
  | writeConfig
  | start
  | pointSystem
  | probe
deriving DecidableEq

/-- How far a refresh has come, by the answer it waits for. -/
inductive Refresh where
  | settingUp (settings : Settings)
  | building (settings : Settings)
  | writing
deriving DecidableEq

/-- What follows one step of a refresh. -/
inductive Refresh.Next where
  | waiting (r : Refresh)
  | done (failure : Option RefreshFault)

namespace Refresh

def query : Refresh → Query
  | .settingUp _ => .setUpFiles
  | .building _ => .buildLists
  | .writing => .writeConfig

def begin (s : Scene) : Scene × Refresh :=
  ((s.tell .fetchingKeys).call .setUpFiles, .settingUp s.settings)

/-- The resolver's settings with the lists that were built in place of its own. -/
def configured (settings : Settings) (lists : BuiltLists) : ResolverSettings :=
  { settings.resolver with blocklist := lists.blocklist }

/-- Goes on with the answer to the call it waits for. -/
def resume : Refresh → Answer → Scene → Option (Scene × Next)
  | .settingUp _, .filesSetUp (some f), s => some (s, .done (some (.setUp f)))
  | .settingUp settings, .filesSetUp none, s =>
    some ((s.tell .fetchingLists).call (.buildLists settings.blocklistChoice),
      .waiting (.building settings))
  | .building settings, .listsBuilt lists, s =>
    some ((s.tellAll (lists.failures.map .sourceFailed)).call
      (.writeConfig (configured settings lists)), .waiting .writing)
  | .writing, .configWritten failure, s => some (s, .done (failure.map .write))
  | _, _, _ => none

end Refresh

end DnsWarden
