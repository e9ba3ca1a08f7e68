import Firewall.CommandLine.Run
import Firewall.Proofs.Build.Outcome

/-!
# What a run loads

An order names a policy and services.  Where both can be loaded, the run goes on with them
(`run_of_loaded`); otherwise it ends and leaves nothing behind (`run_of_unloaded`).
-/

namespace Firewall.CommandLine

/-- An order for a run, with a value for each option that takes one. -/
structure Order where
  policy : String
  hosts : Option (List String)
  directory : Option String
  services : String
  verbose : Bool

def Order.options (order : Order) : Options where
  policy := order.policy
  hosts := order.hosts.map fun hosts => hosts.map .text
  outputDirectory := order.directory.map .text
  services := .text order.services
  verbose := order.verbose

/-! ## Options -/

theorem texts_map_text (texts : List String) : Argument.texts (texts.map .text) = texts := by
  induction texts with
  | nil => rfl
  | cons text rest ih => rw [List.map_cons, Argument.texts, ih]

variable {surroundings : Surroundings} {order : Order}

theorem hosts_options : order.options.hosts.map Argument.texts = order.hosts := by
  rw [Order.options, Option.map_map]
  cases order.hosts with
  | none => rfl
  | some hosts => exact congrArg some (texts_map_text hosts)

/-- Nothing but the compilation stops a run whose options have values. -/
theorem stopping?_options {done : Compilation} (returned : done.ended = none) :
    stopping? order.options done = none := by
  have hosts : (order.options.hosts.getD []).contains .missing = false := by
    cases given : order.hosts <;> simp [Order.options, given]
  have directory : order.options.outputDirectory ≠ some .missing := by
    cases given : order.directory <;> simp [Order.options, given]
  simp only [stopping?, returned, hosts, if_neg directory]
  rfl

theorem directory_options :
    order.options.outputDirectory.bind Argument.text? = order.directory := by
  cases given : order.directory <;> simp [Order.options, given, Argument.text?]

/-! ## Files -/

/-- The policy and the services that an order names, where they can be loaded. -/
structure Loaded (surroundings : Surroundings) (order : Order) where
  policy : Policy
  services : Services
  events : List Event
  loadsPolicy : loadPolicy surroundings.tree (Path.read order.policy) = .ok policy
  loadsServices :
    loadServices surroundings.tree (Path.read order.services) = .ok (services, events)

def compilerFor (surroundings : Surroundings) (policy : Policy) (services : Services) :
    Compiler where
  policy
  factory := ⟨⟨policy.addresses, some surroundings.system⟩, services⟩
  time := surroundings.time
  collects := true

namespace Loaded

def compiler (loaded : Loaded surroundings order) : Compiler :=
  compilerFor surroundings loaded.policy loaded.services

/-- The names that are selected: those of the order, or all in the policy. -/
def selected (loaded : Loaded surroundings order) : List String :=
  order.hosts.getD loaded.policy.hosts.keys

/-- The compilation of the selected hosts, with nothing known. -/
def compilation (loaded : Loaded surroundings order) : Compilation :=
  loaded.compiler.compile order.hosts .empty

end Loaded

theorem run_of_loaded (loaded : Loaded surroundings order) :
    run surroundings order.options =
      compileAndWrite surroundings order.options loaded.policy loaded.services
        (.loadingPolicy order.policy :: loaded.events) := by
  have loadsPolicy : loadPolicy surroundings.tree (Path.read order.options.policy) =
      .ok loaded.policy := loaded.loadsPolicy
  have services : order.options.services = .text order.services := rfl
  simp only [run, loadsPolicy, services, loaded.loadsServices]
  rfl

theorem run_of_unloaded (unloaded : ¬ Nonempty (Loaded surroundings order)) :
    ∃ events, run surroundings order.options = ⟨.ok .notLoaded, "", events, surroundings.tree⟩ := by
  have services : order.options.services = .text order.services := rfl
  rw [run, services]
  cases loadsPolicy : loadPolicy surroundings.tree (Path.read order.options.policy) with
  | error error => exact ⟨_, rfl⟩
  | ok policy =>
      cases loadsServices : loadServices surroundings.tree (Path.read order.services) with
      | error error =>
          simp only [loadsServices]
          exact ⟨_, rfl⟩
      | ok both => exact absurd ⟨policy, both.1, both.2, loadsPolicy, loadsServices⟩ unloaded

/-- What is seen of the policy and the services of an order, if they are loaded. -/
def viewLoaded {α : Type} (surroundings : Surroundings) (order : Order)
    (view : Policy → Services → α) : Option α :=
  (loadPolicy surroundings.tree (Path.read order.policy)).toOption.bind fun policy =>
    (loadServices surroundings.tree (Path.read order.services)).toOption.map fun loaded =>
      view policy loaded.1

theorem loaded_of_view {α : Type} {view : Policy → Services → α} {seen : α}
    (viewed : viewLoaded surroundings order view = some seen) :
    Nonempty (Loaded surroundings order) ∧
      ∀ loaded : Loaded surroundings order, view loaded.policy loaded.services = seen := by
  constructor
  · rw [viewLoaded] at viewed
    cases loadsPolicy : loadPolicy surroundings.tree (Path.read order.policy) with
    | error error =>
        rw [loadsPolicy] at viewed
        contradiction
    | ok policy =>
        rw [loadsPolicy] at viewed
        obtain ⟨both, loadsServices, -⟩ := exists_ok_of_map_toOption viewed
        exact ⟨policy, both.1, both.2, loadsPolicy, loadsServices⟩
  · intro loaded
    rw [viewLoaded, loaded.loadsPolicy, loaded.loadsServices] at viewed
    exact Option.some.inj viewed

end Firewall.CommandLine
