import Shortcuts.Machine.Shell.Program
import Shortcuts.Machine.Utility.Filters.Characters
import Shortcuts.Machine.Utility.Filters.Columns
import Shortcuts.Machine.Utility.Filters.Sorting
import Shortcuts.Machine.Utility.Filters.Streams
import Shortcuts.Machine.Utility.Inspection
import Shortcuts.Machine.Utility.Numbers
import Shortcuts.Machine.Utility.PathNames
import Shortcuts.Machine.Utility.Search
import Shortcuts.Machine.Utility.Surroundings

/-!
# Programs

What each utility does as a process.
-/

namespace Shortcuts.Machine

open Text Printing

def printFormatted (p : Process) : Task Nat := do
  let f := format (.program p.name) p.args
  p.out f.written
  f.complaints.forM p.complain
  return f.status

def evaluateCondition (bracket : Bool) (p : Process) : Task Nat := do
  let probe := Condition.Probe.ofSystem (← get) p.descriptors p.directory
  match Condition.run probe true bracket p.args with
  | (status, none) => return status
  | (status, some what) => do
    p.complain what
    return status

/-- Carry out a utility that starts no other programs. -/
def Utility.work (u : Utility) (p : Process) : Task Nat :=
  match u with
  | .echo => do
    p.out (programEcho p.args)
    return 0
  | .printf => printFormatted p
  | .condition => evaluateCondition false p
  | .bracket => evaluateCondition true p
  | .succeed => return 0
  | .fail => return 1
  | .basename => PathNames.basename p
  | .cat => Filters.cat p
  | .chmod => Tree.chmod p
  | .cmp => Inspection.cmp p
  | .cp => Tree.cp p
  | .cut => Filters.cutColumns p
  | .dirname => PathNames.dirname p
  | .expr => Numbers.expr p
  | .grep => Search.grep p
  | .head => Filters.head p
  | .id => Surroundings.id p
  | .ln => Tree.ln p
  | .ls => Tree.ls p
  | .mkdir => Tree.mkdir p
  | .mv => Tree.mv p
  | .od => Inspection.od p
  | .paste => Filters.paste p
  | .printenv => Surroundings.printenv p
  | .readlink => Tree.readlink p
  | .realpath => PathNames.realpath p
  | .rev => Filters.rev p
  | .rm => Tree.rm p
  | .rmdir => Tree.rmdir p
  | .sed => Search.sed p
  | .seq => Numbers.seq p
  | .sleep => Surroundings.sleep p
  | .sort => Filters.sort p
  | .stat => Inspection.stat p
  | .tac => Filters.tac p
  | .tail => Filters.tail p
  | .tee => Filters.tee p
  | .touch => Tree.touch p
  | .tr => Filters.tr p
  | .tty => Surroundings.say p "not a tty" 1
  | .uname => Surroundings.say p "Linux" 0
  | .uniq => Filters.uniq p
  | .wc => Filters.wc p
  | .which => PathNames.which p
  | .whoami => Surroundings.say p "root" 0
  | .workingDirectory => PathNames.workingDirectory p
  | .yes => Surroundings.yes p
  | .shell | .env | .nice | .nohup | .timeout | .xargs => return 0

/-- Run a utility to its end. -/
def Utility.run (start : Starter) (u : Utility) (p : Process) : Task Exit :=
  match u with
  | .shell => Shell.program start p
  | .env => Surroundings.env start p
  | .nice => Surroundings.wrapper start p { valued := "n", ordered := true } 0 ""
  | .nohup => Surroundings.wrapper start p { ordered := true } 0 "failed to run command "
  | .timeout =>
    Surroundings.wrapper start p { valued := "sk", ordered := true } 1 "failed to run command "
  | .xargs => return .code (← Surroundings.xargs start p)
  | u => return .code (← u.work p)

end Shortcuts.Machine
