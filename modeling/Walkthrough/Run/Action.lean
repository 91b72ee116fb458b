import Walkthrough.Handler.Builtin

/-!
Carrying out the action of a step on its target. Every action but a wait has a time limit.
-/
namespace Walkthrough

structure Runner where
  registry : Registry := .builtin
  settings : RunSettings := {}
  /-- The working directory, which relative upload paths are resolved against. -/
  directory : String := ""

namespace Step

def call (s : Step) (c : Call) : Attempt StepFault c.Value := do
  match ← Attempt.ofPlay (Play.call c) with
  | .ok a => return a
  | .error fault => throw (.action s.action.name (.page fault))

def navigate (s : Step) : Attempt StepFault Unit :=
  s.call (.goto ((s.path.filter (· != "")).getD "/") s.options)

def interaction? (s : Step) (t : Target) : Option Call :=
  match s.action with
  | .fill => some (.fill t s.dataText s.options)
  | .type => some (.type t s.dataText s.options)
  | .click => some (.click t s.options)
  | .hover => some (.hover t s.options)
  | .press => some (.press t s.dataText s.options)
  | _ => none

def interact (s : Step) : Option Target → Attempt StepFault Unit
  | none => return ()
  | some t =>
    match s.interaction? t with
    | some c => do
      let _ ← s.call c
    | none => throw (.unsupportedAction s.action.name)

def upload (s : Step) (directory : String) : Option Target → Attempt StepFault Unit
  | none => throw .uploadTargetMissing
  | some t =>
    match Upload.collect directory s with
    | .error fault => throw fault
    | .ok files => do
      if s.clearFirst then s.call (.setInputFiles t [])
      s.call (.setInputFiles t files)

def pause (s : Step) : Attempt StepFault Unit :=
  match s.waitTime with
  | some ms => if 0 < ms then s.call (.waitForTimeout ms) else return ()
  | none => return ()

def callHandler (s : Step) (r : Registry) : Attempt StepFault Unit := do
  let name := s.customName.getD ""
  match r.action? name with
  | none => throw (.customActionNotFound name)
  | some handler =>
    match ← Attempt.result (handler s) with
    | .ok () => return ()
    | .error trouble => throw (.action s!"custom:{name}" (.handler trouble))

def unlimited (s : Step) (r : Runner) (target : Option Target) : Attempt StepFault Unit :=
  match s.action with
  | .goto => s.navigate
  | .fill | .type | .click | .hover | .press => s.interact target
  | .upload => s.upload r.directory target
  | .waitForTimeout => s.pause
  | .custom => s.callHandler r.registry
  | .unknown name => throw (.unsupportedAction name)

def lacksTarget (s : Step) (settings : RunSettings) (target : Option Target) : Bool :=
  target.isNone && s.action.needsTarget && s.action != .upload && settings.strictTargets

def limited (s : Step) (limit : Nat) (p : Attempt StepFault Unit) : Attempt StepFault Unit := do
  match ← Attempt.ofPlay (Play.limited limit p.run) with
  | some (.ok ()) => return ()
  | some (.error fault) => throw fault
  | none => throw (.actionTimeout s.action.name limit)

def act (s : Step) (r : Runner) (target : Option Target) : Attempt StepFault Unit :=
  match s.action with
  | .unknown name => throw (.unsupportedAction name)
  | .waitForTimeout => s.pause
  | _ =>
    if s.lacksTarget r.settings target then throw (.targetRequired s.action.name)
    else s.limited r.settings.actionTimeout.millis (s.unlimited r target)

end Step

end Walkthrough
