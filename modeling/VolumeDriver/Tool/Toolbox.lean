import VolumeDriver.Tool.Command

/-!
# Helper tools

A toolbox is any state that answers commands. One that follows a script (`ToolScript.toolbox`) has a list of rules for each
program. The first rule that fits the arguments of a command answers it with its next reply; its last
reply it gives again and again. A command that no rule fits succeeds and writes nothing.
-/

namespace VolumeDriver

/-- Helper tools: what each command answers, and what it leaves behind. -/
structure Toolbox (τ : Type) where
  run : Command → τ → CommandOutput × τ

structure ToolRule where
  /-- The first argument a command must have, if any. -/
  firstArg : Option String := none
  /-- The last argument a command must have, if any. -/
  lastArg : Option String := none
  replies : List CommandOutput := []
  deriving DecidableEq

namespace ToolRule

def fits (r : ToolRule) (c : Command) : Bool :=
  (r.firstArg.all fun a => c.args.head? = some a) && r.lastArg.all fun a => c.args.getLast? = some a

/-- The next reply, and the rule with the replies that are left. -/
def reply (r : ToolRule) : CommandOutput × ToolRule :=
  match r.replies with
  | [] => (.success "", r)
  | [o] => (o, r)
  | o :: rest => (o, { r with replies := rest })

/-- The reply of the first rule that fits. -/
def replyOf (c : Command) : List ToolRule → CommandOutput × List ToolRule
  | [] => (.success "", [])
  | r :: rs =>
    if r.fits c then
      let (o, r) := r.reply
      (o, r :: rs)
    else
      let (o, rs) := replyOf c rs
      (o, r :: rs)

end ToolRule

/-- The rules of each program. -/
structure ToolScript where
  rules : SortedMap String (List ToolRule) := .empty

namespace ToolScript

/-- Adds the rules of a second script; of a program in both, the second has all the rules. -/
def extend (s t : ToolScript) : ToolScript := ⟨s.rules.union t.rules⟩

def run (c : Command) (s : ToolScript) : CommandOutput × ToolScript :=
  match s.rules.get? c.program with
  | none => (.success "", s)
  | some rules =>
    let (o, rules) := ToolRule.replyOf c rules
    (o, ⟨s.rules.insert c.program rules⟩)

def toolbox : Toolbox ToolScript := ⟨run⟩

end ToolScript

end VolumeDriver
