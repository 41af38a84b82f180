import FormatBridge.Settings
import FormatBridge.Text.Quoted

set_option autoImplicit false

/-! # Actions that a user can invoke

A table binds full names to actions and lists the groups of the toolbar. Registering a name again
replaces its action. What an action does when it is invoked is a value of the type `η`. -/

namespace FormatBridge

/-- An action. -/
structure Action (η : Type) where
  icon : String
  /-- How it is explained to the user. -/
  help : String
  handler : η
  deriving Repr

/-- A description of an action. -/
def Action.describe {η : Type} (a : Action η) : String :=
  "Action \x7b icon: " ++ Text.quoted a.icon ++ ", help: " ++ Text.quoted a.help ++ ", .. \x7d"

/-- The registered actions. -/
structure ActionTable (η : Type) where
  /-- The actions by their full names, each name once. -/
  actions : List (String × Action η)
  /-- The groups of the toolbar in the order in which they were added. -/
  toolbar : List (List String)
  deriving Repr

namespace ActionTable

variable {η : Type}

/-- A table without actions. -/
def empty : ActionTable η := ⟨[], []⟩

/-- The action with a full name. -/
def get? (t : ActionTable η) (name : String) : Option (Action η) := t.actions.lookup name

/-- Registers an action in a namespace; gives its full name. -/
def register (t : ActionTable η) (action : Action η) (name scope : String) :
    String × ActionTable η :=
  let full := actionName scope name
  (full, { t with actions := (full, action) :: t.actions.filter (·.1 ≠ full) })

/-- Adds a group to the toolbar. -/
def addGroup (t : ActionTable η) (names : List String) : ActionTable η :=
  { t with toolbar := t.toolbar ++ [names] }

/-- What all the registered actions do. -/
def handlers (t : ActionTable η) : List η := t.actions.map (·.2.handler)

end ActionTable

end FormatBridge
