import Mathlib.Data.List.Forall2
import Sluice.Guard
import Sluice.Proofs.Registry.Lookup

/-!
# What the guard lets through

Native SQL is allowed under three conditions, and a denial names the first that fails. The conditions
are about the user, about changes of the schema, and about statements that nobody could classify. A
more permissive policy never denies what was allowed, and a policy for one driver concerns only the
drivers that reach it along their chain.
-/

namespace Sluice

open Text

/-! ## Who asks -/

/-- The user of a connection: the one known apart from the connection string, else the option that
is spelled exactly `USER`, else nobody. -/
inductive Metadata.HasUser (m : Metadata) : String → Prop where
  | known {user} : m.user = some user → HasUser m user
  | option {user} : m.user = none → m.descriptor.options.lookup "USER" = some user → HasUser m user
  | nobody : m.user = none → m.descriptor.options.lookup "USER" = none → HasUser m ""

theorem Metadata.hasUser_resolvedUser (m : Metadata) : m.HasUser m.resolvedUser := by
  simp only [resolvedUser, ConnectionDescriptor.user?, ConnectionDescriptor.option?]
  cases huser : m.user with
  | some user => exact .known huser
  | none =>
      cases hoption : m.descriptor.options.lookup "USER" with
      | some user => exact .option huser hoption
      | none => exact .nobody huser hoption

namespace Guard

/-! ## The conditions -/

section

variable (d : Driver) (user : String) (policy : Policy) (fragments : List Classification)

/-- The chain declares no default account, or the user is somebody and not that account, whatever
the case of its letters. -/
def Outsider : Prop :=
  ∀ admin, d.Declares (·.adminUser) admin → user ≠ "" ∧ lowerAscii user ≠ lowerAscii admin

/-- Changes of the schema are welcome or absent. -/
def SchemaFits : Prop :=
  policy.allowSchemaMutation = true ∨ ∀ c ∈ fragments, c.kind ≠ .ddl

/-- Statements that nobody could classify are welcome or absent. -/
def TextFits : Prop :=
  policy.allowUnparseable = true ∨ ∀ c ∈ fragments, c.kind ≠ .unparseable

/-- The decision on native SQL that was classified into `fragments`: the first condition that fails
is the reason of a denial. -/
inductive Judgement : Decision → Prop where
  | credential : ¬ Outsider d user → Judgement (.deny (.defaultCredential d.displayName))
  /-- The class is that of the first statement which changes the schema. -/
  | schema {before ddl after} : Outsider d user → policy.allowSchemaMutation = false →
      fragments = before ++ ddl :: after → ddl.kind = .ddl → (∀ c ∈ before, c.kind ≠ .ddl) →
      Judgement (.deny (.disallowedCategory d.displayName ddl.className))
  | unparseable : Outsider d user → SchemaFits policy fragments → ¬ TextFits policy fragments →
      Judgement (.deny .unparseable)
  | allow : Outsider d user → SchemaFits policy fragments → TextFits policy fragments →
      Judgement .allow

end

section

variable {d : Driver} {user : String} {policy : Policy} {fragments : List Classification}

/-- Allowed are exactly the queries that meet all three conditions. -/
theorem Judgement.allowed_iff {decision : Decision}
    (h : Judgement d user policy fragments decision) :
    decision.allowed = true ↔
      Outsider d user ∧ SchemaFits policy fragments ∧ TextFits policy fragments := by
  cases h with
  | credential huser => simp [Decision.allowed, huser]
  | @schema before ddl after huser hpolicy hfragments hddl =>
      have hschema : ¬ SchemaFits policy fragments := by
        rintro (hallow | hnone)
        · exact Bool.noConfusion (hallow.symm.trans hpolicy)
        · exact hnone ddl (by simp [hfragments]) hddl
      simp [Decision.allowed, hschema]
  | unparseable huser hschema htext => simp [Decision.allowed, htext]
  | allow huser hschema htext => simp [Decision.allowed, huser, hschema, htext]

theorem isDefaultAccount_iff {admin : String} :
    isDefaultAccount admin user = true ↔ ¬ (user ≠ "" ∧ lowerAscii user ≠ lowerAscii admin) := by
  have hlower : eqIgnoreCase user admin = true ↔ lowerAscii user = lowerAscii admin := by
    simp [eqIgnoreCase, lowerAscii, String.ofList_inj]
  rw [isDefaultAccount, Bool.or_eq_true, hlower, String.isEmpty_iff, not_and_or, not_not, not_not]

theorem outsider_iff :
    (d.adminUser?.any fun admin => isDefaultAccount admin user) = true ↔ ¬ Outsider d user := by
  simp only [Option.any_eq_true, isDefaultAccount_iff, Outsider, Driver.declares_iff, not_forall,
    Driver.adminUser?, exists_prop]

theorem judge_of_schemaFits (hschema : SchemaFits policy fragments) (driver : String) :
    judge driver policy fragments =
      if !policy.allowUnparseable && fragments.any (·.kind == .unparseable) then .deny .unparseable
      else .allow := by
  rw [judge]
  rcases hschema with hallow | hnone
  · rw [if_pos hallow]
  · have hfind : fragments.find? (·.kind == .ddl) = none :=
      List.find?_eq_none.mpr fun c hc => by simpa using hnone c hc
    rw [hfind, ite_self]

theorem textFits_iff :
    (!policy.allowUnparseable && fragments.any (·.kind == .unparseable)) = true ↔
      ¬ TextFits policy fragments := by
  simp [TextFits, List.any_eq_true]

/-- The statements decide once the user is found to be an outsider. -/
theorem judge_judgement (huser : Outsider d user) :
    Judgement d user policy fragments (judge d.displayName policy fragments) := by
  by_cases hschema : SchemaFits policy fragments
  · rw [judge_of_schemaFits hschema]
    split
    · rename_i htext
      exact .unparseable huser hschema (textFits_iff.mp htext)
    · rename_i htext
      exact .allow huser hschema (not_not.mp fun hno => htext (textFits_iff.mpr hno))
  · obtain ⟨hforbidden, hsome⟩ := not_or.mp hschema
    have hpolicy := Bool.eq_false_iff.mpr hforbidden
    cases hfind : fragments.find? (·.kind == .ddl) with
    | none =>
        refine absurd (fun c hc hddl => ?_) hsome
        exact List.find?_eq_none.mp hfind c hc (by simp [hddl])
    | some ddl =>
        obtain ⟨hddl, before, after, hfragments, hbefore⟩ := List.find?_eq_some_iff_append.mp hfind
        rw [judge, if_neg hforbidden, hfind]
        refine .schema huser hpolicy hfragments (beq_iff_eq.mp hddl) fun c hc hkind => ?_
        simpa [hkind] using hbefore c hc

theorem judgeNative_judgement (g : Guard) (m : Metadata) (sql : String) (call : Nat) :
    Judgement d m.resolvedUser (g.policies.policyFor d) ((parserOf d).classify sql call)
      (g.judgeNative d m sql call) := by
  rw [judgeNative]
  split
  · rename_i huser
    exact .credential (outsider_iff.mp huser)
  · rename_i huser
    exact judge_judgement (not_not.mp fun hno => huser (outsider_iff.mpr hno))

end

theorem parserOf_resolves (d : Driver) : d.Resolves (·.parser) Ansi.parser (parserOf d) :=
  Driver.resolves_iff.mpr rfl

theorem policyFor_resolves (policies : PolicySet) (d : Driver) :
    d.Resolves (fun e => policies.entry? e.id) policies.fallback (policies.policyFor d) :=
  Driver.resolves_iff.mpr rfl

section

variable {g : Guard} {m : Metadata} {d : Driver}

theorem authorize_plan (h : g.registry.get? m.driverId = some d) (p : Plan) (call : Nat) :
    g.authorize (.plan p) m call = .ok .allow := by
  rw [authorize, Registry.resolve_of_get? h]

theorem authorize_native (h : g.registry.get? m.driverId = some d) (sql : String)
    (params : List Value) (call : Nat) :
    g.authorize (.native sql params) m call = .ok (g.judgeNative d m sql call) := by
  rw [authorize, Registry.resolve_of_get? h]

theorem authorize_unknown (h : g.registry.get? m.driverId = none) (q : Query) (call : Nat) :
    g.authorize q m call = .error (.unknownDriver m.driverId) := by
  rw [authorize, Registry.resolve, h]

end

end Guard

/-! ## More permissive policies -/

/-- One policy lets through at least what the other does. -/
structure Policy.Raises (p q : Policy) : Prop where
  schema : p.allowSchemaMutation = true → q.allowSchemaMutation = true
  text : p.allowUnparseable = true → q.allowUnparseable = true

/-- Some flags of the policies were turned on, none off, and the entries stayed as they were. -/
structure PolicySet.Raises (ps qs : PolicySet) : Prop where
  fallback : ps.fallback.Raises qs.fallback
  entries : List.Forall₂ (fun x y => x.1 = y.1 ∧ x.2.Raises y.2) ps.entries qs.entries

namespace PolicySet

theorem lookup_raises {xs ys : List (String × Policy)}
    (h : List.Forall₂ (fun x y => x.1 = y.1 ∧ x.2.Raises y.2) xs ys) (id : String) :
    Option.Rel Policy.Raises (xs.lookup id) (ys.lookup id) := by
  induction h with
  | nil => exact .none
  | @cons x y xs ys hxy _ ih =>
      obtain ⟨x, p⟩ := x
      obtain ⟨y, q⟩ := y
      obtain ⟨rfl, hraises⟩ := hxy
      rw [List.lookup_cons, List.lookup_cons]
      cases id == x with
      | true => exact .some hraises
      | false => exact ih

theorem Raises.entry? {ps qs : PolicySet} (h : ps.Raises qs) (id : String) :
    Option.Rel Policy.Raises (ps.entry? id) (qs.entry? id) :=
  lookup_raises (List.rel_reverse h.entries) id

theorem Raises.policyFor {ps qs : PolicySet} (h : ps.Raises qs) (d : Driver) :
    (ps.policyFor d).Raises (qs.policyFor d) := by
  have hnearest := Driver.nearest_rel (fun e => h.entry? e.id) d
  rw [PolicySet.policyFor, PolicySet.policyFor]
  generalize d.nearest (fun e => ps.entry? e.id) = x at hnearest ⊢
  generalize d.nearest (fun e => qs.entry? e.id) = y at hnearest ⊢
  cases hnearest with
  | some hraises => exact hraises
  | none => exact h.fallback

end PolicySet

namespace Guard

theorem SchemaFits.raise {p q : Policy} {fragments : List Classification} (hraises : p.Raises q)
    (h : SchemaFits p fragments) : SchemaFits q fragments :=
  h.imp_left hraises.schema

theorem TextFits.raise {p q : Policy} {fragments : List Classification} (hraises : p.Raises q)
    (h : TextFits p fragments) : TextFits q fragments :=
  h.imp_left hraises.text

/-- The guard with other policies. -/
def withPolicies (g : Guard) (policies : PolicySet) : Guard := { g with policies }

theorem judgeNative_allowed_iff (g : Guard) (d : Driver) (m : Metadata) (sql : String) (call : Nat) :
    (g.judgeNative d m sql call).allowed = true ↔
      Outsider d m.resolvedUser ∧
        SchemaFits (g.policies.policyFor d) ((parserOf d).classify sql call) ∧
        TextFits (g.policies.policyFor d) ((parserOf d).classify sql call) :=
  (judgeNative_judgement g m sql call).allowed_iff

/-- No flag that is turned on makes a query be denied. -/
theorem authorize_raise {g : Guard} {policies : PolicySet} (hraises : g.policies.Raises policies)
    {q : Query} {m : Metadata} {call : Nat} {decision : Decision}
    (h : g.authorize q m call = .ok decision) (hallowed : decision.allowed = true) :
    ∃ decision', (g.withPolicies policies).authorize q m call = .ok decision' ∧
      decision'.allowed = true := by
  cases hd : g.registry.get? m.driverId with
  | none =>
      rw [authorize_unknown hd] at h
      cases h
  | some d =>
      cases q with
      | plan p => exact ⟨.allow, authorize_plan (g := g.withPolicies policies) hd p call, rfl⟩
      | native sql params =>
          rw [authorize_native hd] at h
          obtain rfl := Except.ok.inj h
          obtain ⟨huser, hschema, htext⟩ := (judgeNative_allowed_iff g d m sql call).mp hallowed
          have hpolicy := hraises.policyFor d
          refine ⟨_, authorize_native (g := g.withPolicies policies) hd sql params call, ?_⟩
          exact (judgeNative_allowed_iff _ d m sql call).mpr
            ⟨huser, hschema.raise hpolicy, htext.raise hpolicy⟩

end Guard

/-! ## A policy for one driver -/

namespace PolicySet

/-- A chain comes to the driver `id` before it comes to any entry of the policies. -/
inductive Reaches (ps : PolicySet) (id : String) : List Descriptor → Prop where
  | here {e chain} : e.id = id → Reaches ps id (e :: chain)
  | farther {e chain} : ps.entry? e.id = none → Reaches ps id chain → Reaches ps id (e :: chain)

theorem Reaches.exists_mem {ps : PolicySet} {id : String} {chain : List Descriptor}
    (h : ps.Reaches id chain) : ∃ e ∈ chain, e.id = id := by
  induction h with
  | here he => exact ⟨_, List.mem_cons_self, he⟩
  | farther _ _ ih =>
      obtain ⟨e, he, hid⟩ := ih
      exact ⟨e, List.mem_cons_of_mem _ he, hid⟩

theorem entry?_withPolicy_self (ps : PolicySet) (id : String) (p : Policy) :
    PolicySet.entry? (ps.withPolicy id p) id = some p := by
  simp [withPolicy, entry?]

theorem entry?_withPolicy_of_ne (ps : PolicySet) {id other : String} (p : Policy)
    (h : other ≠ id) : PolicySet.entry? (ps.withPolicy id p) other = ps.entry? other := by
  have hne : (other == id) = false := beq_eq_false_iff_ne.mpr h
  simp [withPolicy, entry?, List.lookup_cons, hne]

/-- The new entry counts where it is reached. -/
theorem policyFor_withPolicy_of_reaches {ps : PolicySet} {id : String} {d : Driver}
    (h : ps.Reaches id d.chain) (p : Policy) : (ps.withPolicy id p).policyFor d = p := by
  have hfind : d.nearest (fun e => PolicySet.entry? (ps.withPolicy id p) e.id) = some p := by
    rw [Driver.nearest]
    generalize d.chain = chain at h ⊢
    induction h with
    | here he => rw [List.findSome?_cons, he, entry?_withPolicy_self]
    | @farther e _ hnone _ ih =>
        rw [List.findSome?_cons]
        by_cases he : e.id = id
        · rw [he, entry?_withPolicy_self]
        · rw [entry?_withPolicy_of_ne ps p he, hnone]
          exact ih
  rw [policyFor, hfind, Option.getD_some]

/-- Elsewhere the new entry is shadowed or not inherited at all. -/
theorem policyFor_withPolicy_of_not_reaches {ps : PolicySet} {id : String} {d : Driver}
    (h : ¬ ps.Reaches id d.chain) (p : Policy) :
    (ps.withPolicy id p).policyFor d = ps.policyFor d := by
  have hfind : d.nearest (fun e => PolicySet.entry? (ps.withPolicy id p) e.id) =
      d.nearest fun e => ps.entry? e.id := by
    rw [Driver.nearest, Driver.nearest]
    generalize d.chain = chain at h ⊢
    induction chain with
    | nil => rfl
    | cons e chain ih =>
        have he : e.id ≠ id := fun he => h (.here he)
        rw [List.findSome?_cons, List.findSome?_cons, entry?_withPolicy_of_ne ps p he]
        cases hentry : ps.entry? e.id with
        | some q => rfl
        | none => exact ih fun hlater => h (.farther hentry hlater)
  rw [policyFor, policyFor, hfind]
  rfl

/-- Where a single policy counts for all drivers. -/
theorem policyFor_of_fallback (p : Policy) (d : Driver) : policyFor ⟨p, []⟩ d = p := by
  have hfind : d.nearest (fun e => entry? ⟨p, []⟩ e.id) = none :=
    Driver.nearest_eq_none.mpr fun _ _ => rfl
  rw [policyFor, hfind, Option.getD_none]

end PolicySet

namespace Guard

/-- The policies matter to a decision only through the one that counts for the driver. -/
theorem authorize_congr {g : Guard} {policies : PolicySet} {m : Metadata}
    (h : ∀ d, g.registry.get? m.driverId = some d → policies.policyFor d = g.policies.policyFor d)
    (q : Query) (call : Nat) :
    (g.withPolicies policies).authorize q m call = g.authorize q m call := by
  cases hd : g.registry.get? m.driverId with
  | none => rw [authorize_unknown hd, authorize_unknown (g := g.withPolicies policies) hd]
  | some d =>
      cases q with
      | plan p => rw [authorize_plan hd, authorize_plan (g := g.withPolicies policies) hd]
      | native sql params =>
          rw [authorize_native hd, authorize_native (g := g.withPolicies policies) hd]
          have hsame : (g.withPolicies policies).policies.policyFor d = g.policies.policyFor d := h d hd
          rw [judgeNative, judgeNative, hsame]

/-! ## The whole decision -/

/-- What the guard answers to the queries of one connection. -/
structure Authorizes (g : Guard) (m : Metadata) (call : Nat) : Prop where
  /-- Only an unknown driver is an error. -/
  fails : ∀ q e, g.authorize q m call = .error e ↔
    (∀ d ∈ g.registry.drivers, d.id ≠ m.driverId) ∧ e = .unknownDriver m.driverId
  plan : ∀ d p, g.registry.get? m.driverId = some d → g.authorize (.plan p) m call = .ok .allow
  /-- Parser and policy are the nearest of the chain, and the decision is the one that the user and
  the classified statements call for. -/
  native : ∀ d sql params, g.registry.get? m.driverId = some d →
    ∃ user parser policy decision,
      m.HasUser user ∧ d.Resolves (·.parser) Ansi.parser parser ∧
      d.Resolves (fun e => g.policies.entry? e.id) g.policies.fallback policy ∧
      g.authorize (.native sql params) m call = .ok decision ∧
      Judgement d user policy (parser.classify sql call) decision ∧
      (decision.allowed = true ↔ Outsider d user ∧ SchemaFits policy (parser.classify sql call) ∧
        TextFits policy (parser.classify sql call))
  /-- Turning flags on never denies what was allowed. -/
  raise : ∀ policies, g.policies.Raises policies → ∀ q decision,
    g.authorize q m call = .ok decision → decision.allowed = true →
    ∃ decision', (g.withPolicies policies).authorize q m call = .ok decision' ∧
      decision'.allowed = true
  /-- A new entry decides, as if it were the only one, for its driver and those descendants that
  reach it. -/
  reached : ∀ id p d, g.registry.get? m.driverId = some d → g.policies.Reaches id d.chain →
    d.inheritsFrom id = true ∧ ∀ q,
      (g.withPolicies (g.policies.withPolicy id p)).authorize q m call =
        (g.withPolicies ⟨p, []⟩).authorize q m call
  /-- For all other drivers a new entry changes nothing. -/
  unreached : ∀ id p, (∀ d, g.registry.get? m.driverId = some d → ¬ g.policies.Reaches id d.chain) →
    ∀ q, (g.withPolicies (g.policies.withPolicy id p)).authorize q m call = g.authorize q m call

theorem authorize_fails (g : Guard) (m : Metadata) (call : Nat) (q : Query) (e : Error) :
    g.authorize q m call = .error e ↔
      (∀ d ∈ g.registry.drivers, d.id ≠ m.driverId) ∧ e = .unknownDriver m.driverId := by
  rw [← Registry.resolve_eq_error, authorize]
  cases g.registry.resolve m.driverId with
  | error e' => simp only [Except.error.injEq]
  | ok d => cases q <;> exact ⟨nofun, nofun⟩

/-- Authorization as a whole, for every registry, all policies and every connection. -/
theorem authorize_authorizes (g : Guard) (m : Metadata) (call : Nat) : g.Authorizes m call where
  fails := authorize_fails g m call
  plan d p hd := authorize_plan hd p call
  native d sql params hd :=
    have hjudgement := judgeNative_judgement (d := d) g m sql call
    ⟨m.resolvedUser, parserOf d, g.policies.policyFor d, g.judgeNative d m sql call,
      m.hasUser_resolvedUser, parserOf_resolves d, policyFor_resolves g.policies d,
      authorize_native hd sql params call, hjudgement, hjudgement.allowed_iff⟩
  raise policies hraises q decision h hallowed := authorize_raise hraises h hallowed
  reached id p d hd hreaches := by
    refine ⟨Driver.inheritsFrom_iff.mpr hreaches.exists_mem, fun q => ?_⟩
    refine (authorize_congr (g := g.withPolicies ⟨p, []⟩) (fun d' hd' => ?_) q call)
    obtain rfl := Option.some.inj (hd.symm.trans hd')
    exact (PolicySet.policyFor_withPolicy_of_reaches hreaches p).trans
      (PolicySet.policyFor_of_fallback p d).symm
  unreached id p hunreached q :=
    authorize_congr (fun d hd => PolicySet.policyFor_withPolicy_of_not_reaches (hunreached d hd) p) q
      call

end Guard

end Sluice
