import TypeProjection.Layout.Classify

/-!
# Layout.Search — the search for a class, with its set

The search hands the bindings whose fields are being looked at down from call to call. The same
search can keep them in one set for all calls: it enters a binding before it looks at the fields,
and takes it out again afterwards. Here nothing makes sure that the set ends as it began, nor that
the search ends at all, which is why this search is a relation. This module defines

- `Demand`, `demands` : what a field asks of the classes of bindings, in the order in which it does;
- `Search` : the set and the classes found so far, which every call may change;
- `Finds`, `Meets` : the course of a search for the class of a binding, and of one through demands.
-/

namespace TypeProjection.Layout

open Source (Signature TypeDecl)

/-! ## What fields ask for -/

/-- What lets a field cross as it is: one class, or one of the blittable classes if the type is
applied to arguments. -/
def accepts (applied : Bool) (k : LayoutClass) : Bool :=
  if applied then k.isBlittable else k = .blittable

/-- One of the things that a field asks for. -/
inductive Demand
  /-- A declaration that is not there. -/
  | dangling
  /-- What no class gives. -/
  | impossible
  /-- An accepted class of a binding. -/
  | binding (c : TypeBindingId) (applied : Bool)
  deriving DecidableEq, Repr

/-- Whether a demand is met, where `classOf` answers for bindings. -/
def Demand.ask (classOf : TypeBindingId → Classifier LayoutClass) : Demand → Classifier Bool
  | .dangling => failure
  | .impossible => return false
  | .binding c applied => return accepts applied (← classOf c)

def demandFor (R : Registry) (t : Source.TypeId) (applied : Bool) : Demand :=
  match R.binding? t with
  | none => .impossible
  | some c => .binding c applied

mutual

/-- What a field of this type asks for. -/
def demands (R : Registry) : Signature → List Demand
  | .named t =>
      match R.source.types[t]? with
      | none => [.dangling]
      | some d => if d.form = .structType then [demandFor R t false] else [.impossible]
  | .unresolved _ => [.impossible]
  | .array _ _ => [.impossible]
  | .byRef _ => [.impossible]
  | .pointer _ => []
  | .inst generic args =>
      match R.source.types[generic]? with
      | none => [.dangling]
      | some d => demandFor R generic true :: argDemands R generic d 0 args
  | .param _ _ => []

/-- What the arguments from `position` on ask for; those that are kept behind pointers only ask for
nothing. -/
def argDemands (R : Registry) (generic : Source.TypeId) (d : TypeDecl) :
    (position : Nat) → List Signature → List Demand
  | _, [] => []
  | position, arg :: args =>
      if d.embeds generic position then demands R arg ++ argDemands R generic d (position + 1) args
      else argDemands R generic d (position + 1) args

end

/-- What all instance fields of a type ask for. -/
def fieldDemands (R : Registry) (d : TypeDecl) : List Demand :=
  d.instanceFields.flatMap fun field => demands R field.type

/-- The class of a type with this declaration if no field has a say in it. -/
def fieldlessClass? (d : TypeDecl) : Option LayoutClass :=
  if d.form ≠ .structType then some .reference
  else if Corlib.isPrimitive d.fullName then some .blittable
  else if !d.hasKnownBase then some .reference
  else none

/-- The class of any other type, by whether its fields get what they ask for. -/
def classByFields (d : TypeDecl) (met : Bool) : LayoutClass :=
  if met then if d.params.isEmpty then .blittable else .genericBlittable else .nonBlittable

/-! ## Searches -/

/-- Where a search is: the bindings whose fields are being looked at, and the classes found so
far. -/
structure Search where
  active : List TypeBindingId := []
  notes : Memo := ∅

namespace Search

def enter (S : Search) (c : TypeBindingId) : Search := { S with active := c :: S.active }

def leave (S : Search) (c : TypeBindingId) : Search := { S with active := S.active.erase c }

/-- Note a class, unless there is one already, and give the one that is noted then. -/
def settle (S : Search) (c : TypeBindingId) (k : LayoutClass) : LayoutClass × Search :=
  match S.notes[c]? with
  | some noted => (noted, S)
  | none => (k, { S with notes := S.notes.insert c k })

end Search

mutual

/-- A search for the class of `c` that begins at `S` gives the class and ends at the other search.
On the way it looks at the fields of the listed bindings, in this order. -/
inductive Finds (R : Registry) : TypeBindingId → Search → List TypeBindingId →
    LayoutClass → Search → Prop
  | standIn {c : TypeBindingId} {b : TypeBinding} {S : Search} (bound : R.types[c]? = some b)
      (standIn : b.standIn) :
      Finds R c S [] .reference S
  | noted {c : TypeBindingId} {b : TypeBinding} {S : Search} {k : LayoutClass}
      (bound : R.types[c]? = some b) (plain : b.standIn = false) (noted : S.notes[c]? = some k) :
      Finds R c S [] k S
  | unsourced {c : TypeBindingId} {b : TypeBinding} {S S' : Search} {k : LayoutClass}
      (bound : R.types[c]? = some b) (plain : b.standIn = false) (unnoted : S.notes[c]? = none)
      (unsourced : b.source = none) (settled : S.settle c .reference = (k, S')) :
      Finds R c S [] k S'
  | active {c : TypeBindingId} {b : TypeBinding} {t : Source.TypeId} {S : Search}
      (bound : R.types[c]? = some b) (plain : b.standIn = false) (unnoted : S.notes[c]? = none)
      (source : b.source = some t) (mem : c ∈ S.active) :
      Finds R c S [] .nonBlittable S
  | fieldless {c : TypeBindingId} {b : TypeBinding} {t : Source.TypeId} {d : TypeDecl}
      {S S' : Search} {k k' : LayoutClass} (bound : R.types[c]? = some b)
      (plain : b.standIn = false) (unnoted : S.notes[c]? = none) (source : b.source = some t)
      (fresh : c ∉ S.active) (declared : R.source.types[t]? = some d)
      (fieldless : fieldlessClass? d = some k)
      (settled : ((S.enter c).leave c).settle c k = (k', S')) :
      Finds R c S [] k' S'
  | fields {c : TypeBindingId} {b : TypeBinding} {t : Source.TypeId} {d : TypeDecl}
      {S S₁ S' : Search} {looked : List TypeBindingId} {met : Bool} {k : LayoutClass}
      (bound : R.types[c]? = some b) (plain : b.standIn = false) (unnoted : S.notes[c]? = none)
      (source : b.source = some t) (fresh : c ∉ S.active) (declared : R.source.types[t]? = some d)
      (fielded : fieldlessClass? d = none)
      (meets : Meets R (fieldDemands R d) (S.enter c) looked met S₁)
      (settled : (S₁.leave c).settle c (classByFields d met) = (k, S')) :
      Finds R c S (c :: looked) k S'

/-- A search goes through demands, up to the first that is not met. -/
inductive Meets (R : Registry) : List Demand → Search → List TypeBindingId → Bool → Search → Prop
  | nil (S : Search) : Meets R [] S [] true S
  | impossible (rest : List Demand) (S : Search) : Meets R (.impossible :: rest) S [] false S
  | unmet {c : TypeBindingId} {applied : Bool} {S S' : Search} {looked : List TypeBindingId}
      {k : LayoutClass} (rest : List Demand) (finds : Finds R c S looked k S')
      (refused : accepts applied k = false) :
      Meets R (.binding c applied :: rest) S looked false S'
  | met {c : TypeBindingId} {applied : Bool} {S S₁ S' : Search}
      {looked looked' : List TypeBindingId} {k : LayoutClass} {rest : List Demand} {met : Bool}
      (finds : Finds R c S looked k S₁) (accepted : accepts applied k)
      (meets : Meets R rest S₁ looked' met S') :
      Meets R (.binding c applied :: rest) S (looked ++ looked') met S'

end

/-- Induction over the course of a search, with one case for each rule. -/
theorem search_induct {R : Registry}
    {onFinds : TypeBindingId → Search → List TypeBindingId → LayoutClass → Search → Prop}
    {onMeets : List Demand → Search → List TypeBindingId → Bool → Search → Prop}
    (standIn : ∀ {c b S}, R.types[c]? = some b → b.standIn → onFinds c S [] .reference S)
    (noted : ∀ {c b S k}, R.types[c]? = some b → b.standIn = false → S.notes[c]? = some k →
      onFinds c S [] k S)
    (unsourced : ∀ {c b S S' k}, R.types[c]? = some b → b.standIn = false → S.notes[c]? = none →
      b.source = none → S.settle c .reference = (k, S') → onFinds c S [] k S')
    (active : ∀ {c b t S}, R.types[c]? = some b → b.standIn = false → S.notes[c]? = none →
      b.source = some t → c ∈ S.active → onFinds c S [] .nonBlittable S)
    (fieldless : ∀ {c b t d S S' k k'}, R.types[c]? = some b → b.standIn = false →
      S.notes[c]? = none →
      b.source = some t → c ∉ S.active → R.source.types[t]? = some d → fieldlessClass? d = some k →
      ((S.enter c).leave c).settle c k = (k', S') → onFinds c S [] k' S')
    (fields : ∀ {c b t d S S₁ S' looked met k}, R.types[c]? = some b → b.standIn = false →
      S.notes[c]? = none →
      b.source = some t → c ∉ S.active → R.source.types[t]? = some d → fieldlessClass? d = none →
      Meets R (fieldDemands R d) (S.enter c) looked met S₁ →
        onMeets (fieldDemands R d) (S.enter c) looked met S₁ →
      (S₁.leave c).settle c (classByFields d met) = (k, S') → onFinds c S (c :: looked) k S')
    (nil : ∀ S, onMeets [] S [] true S)
    (impossible : ∀ rest S, onMeets (.impossible :: rest) S [] false S)
    (unmet : ∀ {c applied S S' looked k} (rest), Finds R c S looked k S' → onFinds c S looked k S' →
      accepts applied k = false → onMeets (.binding c applied :: rest) S looked false S')
    (met : ∀ {c applied S S₁ S' looked looked' k rest met}, Finds R c S looked k S₁ →
      onFinds c S looked k S₁ →
      accepts applied k → Meets R rest S₁ looked' met S' → onMeets rest S₁ looked' met S' →
      onMeets (.binding c applied :: rest) S (looked ++ looked') met S') :
    (∀ {c S looked k S'}, Finds R c S looked k S' → onFinds c S looked k S') ∧
      ∀ {ds S looked met S'}, Meets R ds S looked met S' → onMeets ds S looked met S' :=
  ⟨@Finds.rec R (fun c S looked k S' _ => onFinds c S looked k S')
      (fun ds S looked met S' _ => onMeets ds S looked met S')
        standIn noted unsourced active fieldless
      (fun bound plain unnoted source fresh declared fielded meets settled ih =>
        fields bound plain unnoted source fresh declared fielded meets ih settled)
      nil impossible (fun rest finds refused ih => unmet rest finds ih refused)
      (fun finds accepted meets first rest => met finds first accepted meets rest),
    @Meets.rec R (fun c S looked k S' _ => onFinds c S looked k S')
      (fun ds S looked met S' _ => onMeets ds S looked met S')
        standIn noted unsourced active fieldless
      (fun bound plain unnoted source fresh declared fielded meets settled ih =>
        fields bound plain unnoted source fresh declared fielded meets ih settled)
      nil impossible (fun rest finds refused ih => unmet rest finds ih refused)
      (fun finds accepted meets first rest => met finds first accepted meets rest)⟩

end TypeProjection.Layout
