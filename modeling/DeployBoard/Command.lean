import DeployBoard.Json.Value

/-!
# `Command` — what can be asked of the backend about a repository

A command deploys a tag, switches auto-deploy, or resets a repository to tracking its versions. It is sent as a `POST`
to the repository's path with a small JSON body.
-/

namespace DeployBoard

/-- **What a command does.** -/
inductive Action where
  | deploy (tag : String)
  | setAutoDeploy (enabled : Bool)
  | reset
  deriving DecidableEq, Repr, Inhabited

/-- **A command against one repository.** -/
structure Command where
  repo : String
  action : Action
  deriving DecidableEq, Repr, Inhabited

/-- How an action is called in messages. -/
def Action.label : Action → String
  | .deploy tag => "deploy " ++ tag
  | .setAutoDeploy true => "auto-deploy on"
  | .setAutoDeploy false => "auto-deploy off"
  | .reset => "reset"

/-- The path that a command is sent to; the repository's name goes in as it is. -/
def Command.path (command : Command) : String :=
  match command.action with
  | .reset => "/tags/" ++ command.repo ++ "/reset"
  | _ => "/tags/" ++ command.repo

/-- The body that an action is sent with. -/
def Action.body : Action → Json
  | .deploy tag => .object [(some "pinned_tag", .string (some tag))]
  | .setAutoDeploy enabled => .object [(some "auto_deploy", .bool enabled)]
  | .reset => .object []

/-- The body of a command, as text. -/
def Command.bodyText (command : Command) : String := String.ofList command.action.body.render

end DeployBoard
