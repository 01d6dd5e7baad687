/-!
# Utilities

The programs that come with a machine, and their names.
-/

namespace Shortcuts.Machine

inductive Utility
  | shell
  | echo
  | printf
  | condition
  | bracket
  | succeed
  | fail
  | basename
  | cat
  | chmod
  | cmp
  | cp
  | cut
  | dirname
  | env
  | expr
  | grep
  | head
  | id
  | ln
  | ls
  | mkdir
  | mv
  | nice
  | nohup
  | od
  | paste
  | printenv
  | readlink
  | realpath
  | rev
  | rm
  | rmdir
  | sed
  | seq
  | sleep
  | sort
  | stat
  | tac
  | tail
  | tee
  | timeout
  | touch
  | tr
  | tty
  | uname
  | uniq
  | wc
  | which
  | whoami
  | workingDirectory
  | xargs
  | yes
  deriving DecidableEq, Repr

/-- Every utility under its names. -/
def Utility.named : List (String × Utility) := [
  ("dash", .shell), ("bash", .shell), ("echo", .echo), ("printf", .printf),
  ("test", .condition), ("[", .bracket), ("true", .succeed), ("false", .fail),
  ("sync", .succeed), ("basename", .basename), ("cat", .cat), ("chmod", .chmod), ("cmp", .cmp),
  ("cp", .cp), ("cut", .cut), ("dirname", .dirname), ("env", .env), ("expr", .expr),
  ("grep", .grep), ("head", .head), ("id", .id), ("ln", .ln), ("ls", .ls), ("mkdir", .mkdir),
  ("mv", .mv), ("nice", .nice), ("nohup", .nohup), ("od", .od), ("paste", .paste),
  ("printenv", .printenv), ("pwd", .workingDirectory), ("readlink", .readlink),
  ("realpath", .realpath), ("rev", .rev), ("rm", .rm), ("rmdir", .rmdir), ("sed", .sed),
  ("seq", .seq), ("sleep", .sleep), ("sort", .sort), ("stat", .stat), ("tac", .tac),
  ("tail", .tail), ("tee", .tee), ("timeout", .timeout), ("touch", .touch), ("tr", .tr),
  ("tty", .tty), ("uname", .uname), ("uniq", .uniq), ("wc", .wc), ("which", .which),
  ("whoami", .whoami), ("xargs", .xargs), ("yes", .yes)]

end Shortcuts.Machine
