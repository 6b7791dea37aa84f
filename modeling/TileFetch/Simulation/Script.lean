import TileFetch.Simulation.Counting

/-!
# Scripts

A script lists what happens at the first use, the second use and so on; its last entry
stands for all further uses.
-/

namespace TileFetch.Simulation

open Time (Instant)

structure Script (α : Type) where
  entries : List α

/-- The entry for this use, and the script for the uses after it. -/
def Script.take {α : Type} (s : Script α) : Option α × Script α :=
  match s.entries with
  | [] => (none, s)
  | [last] => (some last, s)
  | entry :: rest => (some entry, ⟨rest⟩)

inductive LogEntry where
  | request (request : Client.Request) (settings : Client.Settings)
  | preAuth (previous : Auth.Context) (overlap : Bool) (now : Instant)
  | generate (token : String) (request : String)

/-- What a transport answers in a script: it may depend on the address. -/
structure Response where
  delay : Nat
  answer : String → Except Client.Fault Image

structure AuthOutcome where
  delay : Nat
  result : Instant → Except Provider.Failure Auth.Context

inductive TileReply where
  | fail (failure : Provider.Failure)
  | send (image : Image)
  | echo

structure TileOutcome where
  delay : Nat
  reply : TileReply

/-- What is left of the scripts, the counters of a counting provider, and the log, newest
entry first. -/
structure Stage where
  responses : Script Response := ⟨[]⟩
  preAuths : Script AuthOutcome := ⟨[]⟩
  tiles : Script TileOutcome := ⟨[]⟩
  counts : Counts := {}
  log : List LogEntry := []

/-- The entries of a log, newest first, that came after the first `count`. -/
def newEntries {α : Type} (count : Nat) (entries : List α) : List α :=
  (entries.take (entries.length - count)).reverse

def Transport.scripted (settings : Client.Settings) : Transport Stage := fun request stage ↦
  let (response, responses) := stage.responses.take
  let stage := { stage with responses, log := .request request settings :: stage.log }
  match response with
  | some r => ((r.delay, r.answer request.url.text), stage)
  | none => ((0, .ok ⟨[], none⟩), stage)

/-- A scripted provider, which rejects some tokens. -/
def Service.scripted (name : String) (rejects : List String) : Service Stage where
  name
  preAuth previous overlap now stage :=
    let (outcome, preAuths) := stage.preAuths.take
    let stage := { stage with preAuths, log := .preAuth previous overlap now :: stage.log }
    match outcome with
    | some o => (⟨some o.delay, fun now s ↦ (s, o.result now)⟩, stage)
    | none => (⟨some 0, fun _ s ↦ (s, .ok .blank)⟩, stage)
  generate context request _ stage :=
    let (outcome, tiles) := stage.tiles.take
    let stage :=
      { stage with tiles, log := .generate (tokenText context) request.text :: stage.log }
    let reply := (outcome.map (·.reply)).getD .echo
    let result : Except Provider.Failure Image :=
      if rejects.contains (tokenText context) then
        .error
          { kind := .authExpired
            message := "token " ++ tokenText context ++ " was rejected" }
      else
        match reply with
        | .fail failure => .error failure
        | .send image => .ok image
        | .echo => .ok (.ofString (echoText context request) none)
    (⟨some ((outcome.map (·.delay)).getD 0), fun _ s ↦ (s, result)⟩, stage)

end TileFetch.Simulation
