import PayloadRules.Proofs.Latest
import PayloadRules.Rule.Registry

/-!
# What identifiers stand for

A registry is filled by calls that register a rule object or declare an alias. After any
calls it answers from two things only: the latest object of every identifier and the latest
target of every alias (`find?_callAll`). An object comes before an alias, and the target of
an alias is looked for among the objects and never among the aliases, so one step is all
there is to follow.

Two calls write in the same place when both register one identifier or both declare one
alias. Neighbours that do not change places without a difference (`resolve_swap`), and calls of
which no two do come in any order (`resolve_perm`).
-/

namespace PayloadRules

namespace Registry

/-- A call that fills a registry. -/
inductive Call where
  | register (id : String) (check : RuleObject)
  | addAlias (id target : String)

namespace Call

/-- The rule object that a call gives an identifier. -/
def object? : Call → Option (String × RuleObject)
  | register id check => some (id, check)
  | addAlias _ _ => none

/-- The target that a call gives an alias. -/
def target? : Call → Option (String × String)
  | register _ _ => none
  | addAlias id target => some (id, target)

/-- Whether two calls write in the same place. -/
def SamePlace : Call → Call → Prop
  | register id _, register other _ => id = other
  | addAlias id _, addAlias other _ => id = other
  | register _ _, addAlias _ _ => False
  | addAlias _ _, register _ _ => False

@[simp]
theorem silent_object?_register {id key : String} {check : RuleObject} :
    Silent object? (register id check) key ↔ id ≠ key := by
  simp [Silent, object?]

@[simp]
theorem silent_object?_addAlias (id target key : String) :
    Silent object? (addAlias id target) key := by
  simp [Silent, object?]

@[simp]
theorem silent_target?_register (id : String) (check : RuleObject) (key : String) :
    Silent target? (register id check) key := by
  simp [Silent, target?]

@[simp]
theorem silent_target?_addAlias {id target key : String} :
    Silent target? (addAlias id target) key ↔ id ≠ key := by
  simp [Silent, target?]

/-- Of two calls that write in different places one is silent about any object. -/
theorem silent_object?_of_apart {a b : Call} (apart : ¬ a.SamePlace b) (key : String) :
    Silent object? a key ∨ Silent object? b key := by
  cases a <;> cases b <;> simp only [silent_object?_register, silent_object?_addAlias, or_true,
    true_or]
  case register.register => exact Ne.ne_or_ne key apart

/-- Of two calls that write in different places one is silent about any target. -/
theorem silent_target?_of_apart {a b : Call} (apart : ¬ a.SamePlace b) (key : String) :
    Silent target? a key ∨ Silent target? b key := by
  cases a <;> cases b <;> simp only [silent_target?_register, silent_target?_addAlias, or_true,
    true_or]
  case addAlias.addAlias => exact Ne.ne_or_ne key apart

end Call

/-- The registry after a call. -/
def call (r : Registry) : Call → Registry
  | .register id check => r.register id check
  | .addAlias id target => r.addAlias id target

/-- The registry after some calls. -/
def callAll (r : Registry) (calls : List Call) : Registry := calls.foldl call r

/-- The rule object that an identifier was given last. -/
def latestObject? (r : Registry) (calls : List Call) (id : String) : Option RuleObject :=
  (latest? Call.object? calls id).or (r.objects.lookup id)

/-- The target that an alias was given last. -/
def latestTarget? (r : Registry) (calls : List Call) (id : String) : Option String :=
  (latest? Call.target? calls id).or (r.aliases.lookup id)

variable {r : Registry} {calls before between after later : List Call} {a b : Call}
  {id name target : String} {check : RuleObject}

/-! ## What the tables hold -/

theorem lookup_objects_callAll (r : Registry) (calls : List Call) (id : String) :
    (r.callAll calls).objects.lookup id = r.latestObject? calls id := by
  apply lookup_foldl Registry.objects
  intro s c
  cases c <;> rfl

theorem lookup_aliases_callAll (r : Registry) (calls : List Call) (id : String) :
    (r.callAll calls).aliases.lookup id = r.latestTarget? calls id := by
  apply lookup_foldl Registry.aliases
  intro s c
  cases c <;> rfl

/-- The latest objects and targets are all that counts. -/
theorem find?_callAll (r : Registry) (calls : List Call) (id : String) :
    (r.callAll calls).find? id =
      (r.latestObject? calls id).or ((r.latestTarget? calls id).bind (r.latestObject? calls)) := by
  have objects := funext (lookup_objects_callAll r calls)
  unfold find?
  rw [lookup_objects_callAll, lookup_aliases_callAll, objects]
  cases r.latestObject? calls id <;> rfl

/-- What an identifier stands for, by the latest objects and targets. -/
theorem resolve_callAll (r : Registry) (calls : List Call) (id : String) :
    (r.callAll calls).resolve id =
      ((r.latestObject? calls id).or
        ((r.latestTarget? calls id).bind (r.latestObject? calls))).elim (.named id) .object := by
  unfold resolve
  rw [find?_callAll]
  cases (r.latestObject? calls id).or _ <;> rfl

theorem contains_iff (r : Registry) (id : String) :
    r.contains id = true ↔ ∃ check, r.resolve id = .object check := by
  unfold contains resolve
  cases r.find? id <;> simp

/-- Registries that agree on the latest objects and targets stand for the same rules. -/
theorem resolve_callAll_congr {s : Registry} {others : List Call}
    (objects : ∀ id, s.latestObject? others id = r.latestObject? calls id)
    (targets : ∀ id, s.latestTarget? others id = r.latestTarget? calls id) (id : String) :
    (s.callAll others).resolve id = (r.callAll calls).resolve id := by
  rw [resolve_callAll, resolve_callAll, funext objects, funext targets]

/-! ## The order of the calls -/

theorem resolve_swap (apart : ¬ a.SamePlace b) (id : String) :
    (r.callAll (before ++ b :: a :: after)).resolve id =
      (r.callAll (before ++ a :: b :: after)).resolve id := by
  apply resolve_callAll_congr
  · intro key
    unfold latestObject?
    rw [latest?_swap (Call.silent_object?_of_apart apart key)]
  · intro key
    unfold latestTarget?
    rw [latest?_swap (Call.silent_target?_of_apart apart key)]

theorem resolve_perm {others : List Call} (perm : calls.Perm others)
    (apart : calls.Pairwise fun a b => ¬ a.SamePlace b) (id : String) :
    (r.callAll others).resolve id = (r.callAll calls).resolve id := by
  apply resolve_callAll_congr
  · intro key
    unfold latestObject?
    rw [latest?_perm perm (apart.imp fun pair => Call.silent_object?_of_apart pair key)]
  · intro key
    unfold latestTarget?
    rw [latest?_perm perm (apart.imp fun pair => Call.silent_target?_of_apart pair key)]

/-- An alias counts for its own name only, and only when that has no object. -/
theorem resolve_without_alias
    (other : id ≠ name ∨ (r.latestObject? (before ++ after) id).isSome) :
    (r.callAll (before ++ .addAlias name target :: after)).resolve id =
      (r.callAll (before ++ after)).resolve id := by
  have objects (key : String) :
      r.latestObject? (before ++ .addAlias name target :: after) key =
        r.latestObject? (before ++ after) key := by
    unfold latestObject?
    rw [latest?_without (Call.silent_object?_addAlias name target key)]
  rw [resolve_callAll, resolve_callAll, funext objects]
  rcases other with other | registered
  · have targets : r.latestTarget? (before ++ .addAlias name target :: after) id =
        r.latestTarget? (before ++ after) id := by
      unfold latestTarget?
      rw [latest?_without (Call.silent_target?_addAlias.mpr other.symm)]
    rw [targets]
  · obtain ⟨check, found⟩ := Option.isSome_iff_exists.mp registered
    rw [found]
    rfl

/-! ## Aliases -/

theorem latestObject?_of_last (last : ∀ c ∈ after, Silent Call.object? c id) :
    r.latestObject? (before ++ .register id check :: after) id = some check := by
  unfold latestObject?
  rw [latest?_eq_some_iff.mpr ⟨before, .register id check, after, rfl, rfl, last⟩]
  rfl

theorem latestTarget?_of_last (last : ∀ c ∈ after, Silent Call.target? c name) :
    r.latestTarget? (before ++ .addAlias name target :: after) name = some target := by
  unfold latestTarget?
  rw [latest?_eq_some_iff.mpr ⟨before, .addAlias name target, after, rfl, rfl, last⟩]
  rfl

/-- A name without an object of its own stands for the object of its target. -/
theorem resolve_of_target (free : r.latestObject? calls name = none)
    (leads : r.latestTarget? calls name = some target)
    (found : r.latestObject? calls target = some check) :
    (r.callAll calls).resolve name = .object check := by
  rw [resolve_callAll, free, leads, Option.bind_some, found]
  rfl

/-- The target of an alias may be registered behind the alias. -/
theorem resolve_of_registered_later
    (named : calls =
      before ++ .addAlias name target :: (between ++ .register target check :: later))
    (lastTarget : ∀ c ∈ between ++ later, Silent Call.target? c name)
    (lastObject : ∀ c ∈ later, Silent Call.object? c target)
    (free : r.latestObject? calls name = none) :
    (r.callAll calls).resolve name = .object check := by
  apply resolve_of_target free
  · rw [named]
    apply latestTarget?_of_last
    intro c there
    rcases List.mem_append.mp there with there | there
    · exact lastTarget c (List.mem_append_left later there)
    · rcases List.mem_cons.mp there with rfl | there
      · exact Call.silent_target?_register target check name
      · exact lastTarget c (List.mem_append_right between there)
  · rw [named, ← List.cons_append, ← List.append_assoc]
    exact latestObject?_of_last lastObject

/-- Identifiers that lead only to one another and have no objects are passed on. -/
theorem resolve_of_ring {ring : List String}
    (round : ∀ id ∈ ring, r.latestObject? calls id = none ∧
      ∃ next ∈ ring, r.latestTarget? calls id = some next) (there : id ∈ ring) :
    (r.callAll calls).resolve id = .named id := by
  obtain ⟨free, next, next_there, leads⟩ := round id there
  have next_free := (round next next_there).1
  rw [resolve_callAll, free, leads]
  simp [next_free]

/-- After any calls an identifier stands for the object it was given last, else for the
object its latest target was given last, else for itself. Nothing else of the calls counts:
those that write in different places come in any order, an alias takes nothing away from a
registered identifier and nothing from any other, it may be declared before its target is
registered, and aliases that go round in a ring leave their names as they are. -/
theorem resolve_rests_on_latest (r : Registry) (calls : List Call) :
    (∀ id, (r.callAll calls).resolve id =
      ((r.latestObject? calls id).or
        ((r.latestTarget? calls id).bind (r.latestObject? calls))).elim (.named id) .object) ∧
    (∀ id, (r.callAll calls).contains id = true ↔
      ∃ check, (r.callAll calls).resolve id = .object check) ∧
    (∀ (s : Registry) (others : List Call),
      (∀ id, s.latestObject? others id = r.latestObject? calls id) →
      (∀ id, s.latestTarget? others id = r.latestTarget? calls id) →
      ∀ id, (s.callAll others).resolve id = (r.callAll calls).resolve id) ∧
    (∀ before a b after, calls = before ++ a :: b :: after → ¬ a.SamePlace b →
      ∀ id, (r.callAll (before ++ b :: a :: after)).resolve id = (r.callAll calls).resolve id) ∧
    (∀ others, calls.Perm others → (calls.Pairwise fun a b => ¬ a.SamePlace b) →
      ∀ id, (r.callAll others).resolve id = (r.callAll calls).resolve id) ∧
    (∀ before name target after, calls = before ++ .addAlias name target :: after →
      ∀ id, id ≠ name ∨ (r.latestObject? (before ++ after) id).isSome →
        (r.callAll calls).resolve id = (r.callAll (before ++ after)).resolve id) ∧
    (∀ before name target between check later,
      calls = before ++ .addAlias name target :: (between ++ .register target check :: later) →
      (∀ c ∈ between ++ later, Silent Call.target? c name) →
      (∀ c ∈ later, Silent Call.object? c target) →
      r.latestObject? calls name = none → (r.callAll calls).resolve name = .object check) ∧
    (∀ ring : List String,
      (∀ id ∈ ring, r.latestObject? calls id = none ∧
        ∃ next ∈ ring, r.latestTarget? calls id = some next) →
      ∀ id ∈ ring, (r.callAll calls).resolve id = .named id) := by
  refine ⟨resolve_callAll r calls, contains_iff (r.callAll calls),
    fun s others => resolve_callAll_congr, ?swap, fun others => resolve_perm, ?without, ?later,
    ?ring⟩
  case swap =>
    rintro before a b after rfl apart id
    exact resolve_swap apart id
  case without =>
    rintro before name target after rfl id other
    exact resolve_without_alias other
  case later =>
    intro before name target between check later named lastTarget lastObject free
    exact resolve_of_registered_later named lastTarget lastObject free
  case ring =>
    intro ring round id there
    exact resolve_of_ring round there

/-- An alias, two that lead to each other, the target of the first and an alias of its name. -/
def guardCalls : List Call :=
  [.addAlias "int" "whole", .addAlias "ping" "pong", .addAlias "pong" "ping",
    .register "whole" RuleObject.integerGuard, .addAlias "whole" "ping"]

/-- The first alias works, its target is not hidden, the two others are passed on, and the calls
may come backwards. -/
theorem resolve_of_guardCalls :
    let r := builtin.callAll guardCalls
    r.resolve "int" = .object RuleObject.integerGuard ∧
      r.resolve "whole" = .object RuleObject.integerGuard ∧
      r.resolve "ping" = .named "ping" ∧ r.resolve "pong" = .named "pong" ∧
      r.contains "int" = true ∧ r.contains "ping" = false ∧
      (builtin.callAll guardCalls.reverse).resolve "int" = .object RuleObject.integerGuard := by
  intro r
  obtain ⟨-, contains, -, -, perm, without, later, ring⟩ :=
    resolve_rests_on_latest builtin guardCalls
  have int : r.resolve "int" = .object RuleObject.integerGuard := by
    refine later [] "int" "whole" [.addAlias "ping" "pong", .addAlias "pong" "ping"]
      RuleObject.integerGuard [.addAlias "whole" "ping"] rfl ?_ ?_ rfl
    · simp
    · simp
  have round : ∀ id ∈ ["ping", "pong"], builtin.latestObject? guardCalls id = none ∧
      ∃ next ∈ ["ping", "pong"], builtin.latestTarget? guardCalls id = some next := by
    simp only [List.forall_mem_cons]
    refine ⟨⟨rfl, "pong", by simp, rfl⟩, ⟨rfl, "ping", by simp, rfl⟩, by simp⟩
  have ping := ring ["ping", "pong"] round "ping" (by simp)
  have apart : guardCalls.Pairwise fun a b => ¬ a.SamePlace b := by
    simp [guardCalls, Call.SamePlace]
  refine ⟨int, ?whole, ping, ring ["ping", "pong"] round "pong" (by simp),
    (contains "int").mpr ⟨_, int⟩, ?ping, ?order⟩
  case whole =>
    exact without [.addAlias "int" "whole", .addAlias "ping" "pong", .addAlias "pong" "ping",
      .register "whole" RuleObject.integerGuard] "whole" "ping" [] rfl "whole" (Or.inr rfl)
  case ping =>
    rw [Bool.eq_false_iff, ne_eq, contains, ping]
    rintro ⟨check, same⟩
    cases same
  case order =>
    rw [← int]
    exact perm guardCalls.reverse (List.reverse_perm guardCalls).symm apart "int"

end Registry

end PayloadRules
