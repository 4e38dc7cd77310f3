import Invalidation.Proofs.Command.Expansion

/-!
# What a notification is answered with

A notification whose change and kind are not in the table of routes is refused, whatever it
carries. Any other one is answered record by record (`Route.Answers`): its commands, taken apart by
their keys, are those for the single records, in order. Only members may go together, if the sink
takes batches, and only public access is refreshed as a whole. So nothing but the change, the kind,
what the records say, and for members the batches of the sink has an influence
(`Outlet.route_answers_record_by_record`).
-/

set_option autoImplicit false

namespace Invalidation

/-- What a record says: which entity it is about and, if it edits a tree, what happened to it. -/
structure Mention where
  id : Int
  action : Option TreeAction
  deriving DecidableEq, Repr

namespace Payload

variable {form : Form}

def mentions : Payload form → List Mention
  | .nothing => []
  | .entities records => records.map fun record => ⟨record.id, none⟩
  | .groups records => records.map fun record => ⟨record.id, none⟩
  | .trees records => records.map fun record => ⟨record.item.id, some record.action⟩
  | .schemas records => records.map fun record => ⟨record.item.id, none⟩

theorem ids_eq_mentions (payload : Payload form) : payload.ids = payload.mentions.map (·.id) := by
  cases payload <;> simp [ids, mentions, Function.comp_def]

theorem steps_eq_mentions (operation : Operation) (payload : Payload form) :
    payload.steps operation = payload.mentions.map fun mention =>
      (mention.action.elim operation TreeAction.operation, mention.id) := by
  cases payload <;> simp [steps, mentions, Function.comp_def]

/-- Only edits of trees say what happened. -/
theorem action_of_plain (plain : form ≠ .trees) {payload : Payload form} {mention : Mention}
    (listed : mention ∈ payload.mentions) : mention.action = none := by
  cases payload with
  | trees records => exact absurd rfl plain
  | nothing => cases listed
  | entities records | groups records | schemas records =>
    obtain ⟨record, -, rfl⟩ := List.mem_map.1 listed
    rfl

end Payload

/-- The commands for single keys that a command stands for. One that names no key, or just one,
stands for itself. -/
def Command.singles (command : Command) : List Command :=
  if command.keys.length ≤ 1 then [command] else command.each command.keys

theorem Command.singles_eq_each {command : Command} (named : command.keys ≠ []) :
    command.singles = command.each command.keys := by
  unfold singles
  split
  next one =>
    have some_keys := List.length_pos_iff.2 named
    obtain ⟨key, only⟩ := List.length_eq_one_iff.1 (show command.keys.length = 1 by omega)
    obtain ⟨region, operation, keys⟩ := command
    obtain rfl : keys = [key] := only
    rfl
  · rfl

namespace Route

variable {change : Change} {kind : Kind} {route : Route}

/-- The command that answers a single record. What happened in a tree decides the operation, and
the refresh of a tree as a whole names no key. -/
def answer (route : Route) (mention : Mention) : Command :=
  match mention.action with
  | none => ⟨route.region, route.operation, [mention.id]⟩
  | some .refreshAll => ⟨route.region, .refreshAll, []⟩
  | some action => ⟨route.region, action.operation, [mention.id]⟩

theorem answer_eq_single (part : route.operation ≠ .refreshAll) (mention : Mention) :
    route.answer mention = Command.single route.region
      (mention.action.elim route.operation TreeAction.operation) mention.id := by
  obtain ⟨id, action⟩ := mention
  cases action with
  | none => simp [answer, Command.single, part]
  | some action => cases action <;> rfl

/-- The commands for single records are apart already. -/
theorem flatMap_singles_answer (route : Route) (mentions : List Mention) :
    (mentions.map route.answer).flatMap Command.singles = mentions.map route.answer := by
  have apart : ∀ mention, (route.answer mention).singles = [route.answer mention] := by
    intro mention
    refine if_pos ?_
    unfold answer
    split <;> simp
  rw [List.flatMap_map]
  simp only [apart]
  exact List.map_eq_flatMap.symm

theorem mem_all_iff : (change, kind, route) ∈ all ↔ find? change kind = some route := by
  simp only [all, List.mem_flatMap, List.mem_filterMap, Option.map_eq_some_iff]
  constructor
  · rintro ⟨_, -, _, -, _, found, same⟩
    cases same
    exact found
  · exact fun found => ⟨change, Coded.mem_all change, kind, Coded.mem_all kind, route, found, rfl⟩

/-- The shape of a route hangs on the kind alone. -/
def shapeOf : Kind → Shape
  | .tree _ => .tree
  | .schema _ => .schema
  | .item .member => .batch
  | .item .publicAccessEntry => .region
  | .item _ => .perEntity

theorem shape_of_find? (found : find? change kind = some route) : route.shape = shapeOf kind := by
  unfold find? at found
  split at found
  · obtain rfl := Option.some.inj found
    cases ‹ItemKind› <;> rfl
  · obtain rfl := Option.some.inj found
    cases ‹ItemKind› <;> rfl
  · obtain rfl := Option.some.inj found
    rfl
  · obtain rfl := Option.some.inj found
    rfl
  · cases found

/-- Only public access is refreshed as a whole region. -/
theorem shape_eq_region_iff (found : find? change kind = some route) :
    route.shape = .region ↔ kind = .item .publicAccessEntry := by
  rw [shape_of_find? found]
  unfold shapeOf
  split <;> simp_all

/-- Only members go in batches. -/
theorem shape_eq_batch_iff (found : find? change kind = some route) :
    route.shape = .batch ↔ kind = .item .member := by
  rw [shape_of_find? found]
  unfold shapeOf
  split <;> simp_all

theorem shape_of_treeChanged (found : find? .treeChanged kind = some route) :
    route.shape = .tree := by
  cases kind with
  | tree kind => rw [← Option.some.inj found]
  | schema kind => cases found
  | item kind => cases found

theorem region_of_item {item : ItemKind} (found : find? change (.item item) = some route) :
    route.region = item.region := by
  cases change with
  | saved | deleted =>
    obtain rfl := Option.some.inj found
    cases item <;> rfl
  | treeChanged | structureChanged => cases found

end Route

theorem Topic.form_eq_trees_iff (topic : Topic) :
    topic.form = .trees ↔ topic.change? = some .treeChanged := by
  cases topic with
  | general => simp [form, change?]
  | family change => cases change <;> simp [form, change?, Change.form]
  | saved kind => cases kind <;> simp [form, change?]
  | deleted kind => simp [form, change?]
  | treeChanged kind => simp [form, change?]
  | structureChanged kind => simp [form, change?]

namespace Notification

variable {event : Notification} {route : Route}

theorem find?_of_route? (mapped : event.route? = some route) :
    ∃ change, event.change? = some change ∧ Route.find? change event.kind = some route :=
  Option.bind_eq_some_iff.1 mapped

theorem plain_of_batch (mapped : event.route? = some route) (batch : route.shape = .batch) :
    event.topic.form ≠ .trees := by
  intro trees
  obtain ⟨change, changed, found⟩ := find?_of_route? mapped
  obtain rfl := Option.some.inj (changed.symm.trans (event.topic.form_eq_trees_iff.1 trees))
  rw [Route.shape_of_treeChanged found] at batch
  cases batch

/-- No route leads from the change and the kind anywhere. -/
def Unrouted (event : Notification) : Prop :=
  ∀ change route, event.change? = some change → (change, event.kind, route) ∉ Route.all

theorem route?_eq_none_iff : event.route? = none ↔ event.Unrouted := by
  simp only [route?, Option.bind_eq_none_iff, Unrouted, Route.mem_all_iff]
  constructor
  · intro lost change route changed found
    rw [lost change changed] at found
    cases found
  · intro lost change changed
    exact Option.eq_none_iff_forall_ne_some.2 fun route => lost change route changed

end Notification

/-- The commands answer the notification by the route, on a sink that takes batches or does not. -/
structure Route.Answers (route : Route) (event : Notification) (batches : Bool)
    (commands : List Command) : Prop where
  /-- Without records there is nothing to do. -/
  nothing : event.payload.mentions = [] → commands = []
  /-- Public access is refreshed as a whole, however many of its entries changed. -/
  access : event.kind = .item .publicAccessEntry → event.payload.mentions ≠ [] →
    commands = [⟨.publicAccess, .refreshAll, []⟩]
  /-- All else is answered record by record, once the commands are taken apart by their keys. -/
  records : event.kind ≠ .item .publicAccessEntry →
    commands.flatMap Command.singles = event.payload.mentions.map route.answer
  /-- Members go together if the sink takes batches, even a single one. -/
  together : event.kind = .item .member → batches = true → event.payload.mentions ≠ [] →
    commands = [⟨.member, route.operation, event.payload.mentions.map (·.id)⟩]
  /-- All else goes one by one. -/
  apart : event.kind ≠ .item .publicAccessEntry → (event.kind = .item .member → batches = false) →
    commands = event.payload.mentions.map route.answer

namespace Notification

variable {event : Notification} {route : Route}

theorem expand_eq_answers (mapped : event.route? = some route) (part : route.shape ≠ .region)
    {batches : Bool} (alone : route.shape = .batch → batches = false) :
    route.expand batches event.payload = event.payload.mentions.map route.answer := by
  obtain ⟨change, -, found⟩ := find?_of_route? mapped
  have keyed : route.operation ≠ .refreshAll := by
    rw [Route.operation_of_find? found part]
    split <;> simp
  rw [Route.expand_of_singles part alone, Payload.steps_eq_mentions, List.map_map]
  exact List.map_congr_left fun mention _ => (Route.answer_eq_single keyed mention).symm

/-- A batch taken apart by its keys answers the records one by one. -/
theorem singles_of_batch (mapped : event.route? = some route) (batch : route.shape = .batch)
    (some_ids : event.payload.ids ≠ []) :
    Command.singles ⟨route.region, route.operation, event.payload.ids⟩ =
      event.payload.mentions.map route.answer := by
  rw [Command.singles_eq_each some_ids, Command.each, Payload.ids_eq_mentions, List.map_map]
  refine List.map_congr_left fun mention listed => ?_
  rw [Route.answer, Payload.action_of_plain (plain_of_batch mapped batch) listed]
  rfl

theorem answers_expand (mapped : event.route? = some route) (batches : Bool) :
    route.Answers event batches (route.expand batches event.payload) := by
  obtain ⟨change, -, found⟩ := find?_of_route? mapped
  have whole_iff := Route.shape_eq_region_iff found
  have batch_iff := Route.shape_eq_batch_iff found
  have ids_iff : event.payload.ids = [] ↔ event.payload.mentions = [] := by
    rw [Payload.ids_eq_mentions, List.map_eq_nil_iff]
  constructor
  case nothing =>
    exact fun empty => Route.expand_of_nil (ids_iff.2 empty) route batches
  case access =>
    intro access some_records
    rw [Route.expand_of_region (mt ids_iff.1 some_records) (whole_iff.2 access)]
    rw [access] at found
    rw [Route.region_of_item found]
    rfl
  case records =>
    intro other
    by_cases alone : route.shape = .batch → batches = false
    · rw [expand_eq_answers mapped (mt whole_iff.1 other) alone, Route.flatMap_singles_answer]
    · obtain ⟨batch, taken⟩ := Classical.not_imp.1 alone
      obtain rfl : batches = true := by simpa using taken
      by_cases empty : event.payload.ids = []
      · rw [Route.expand_of_nil empty, ids_iff.1 empty]
        rfl
      · rw [Route.expand_of_batch empty batch, List.flatMap_singleton]
        exact singles_of_batch mapped batch empty
  case together =>
    intro member taken some_records
    subst taken
    rw [Route.expand_of_batch (mt ids_iff.1 some_records) (batch_iff.2 member)]
    rw [member] at found
    rw [Route.region_of_item found, Payload.ids_eq_mentions]
    rfl
  case apart =>
    intro other alone
    exact expand_eq_answers mapped (mt whole_iff.1 other) fun batch => alone (batch_iff.1 batch)

/-- What the records say settles the commands, and for a batch whether the sink takes it. -/
theorem expand_congr {form others : Form} {payload : Payload form} {other : Payload others}
    (same : other.mentions = payload.mentions) {batches elsewhere : Bool}
    (alike : route.shape = .batch → elsewhere = batches) :
    route.expand elsewhere other = route.expand batches payload := by
  simp only [Route.expand, Payload.ids_eq_mentions, Payload.steps_eq_mentions, same]
  cases shape : route.shape with
  | batch => rw [alike shape]
  | perEntity | region | tree | schema => rfl

theorem commands_congr {other : Notification} (changed : other.change? = event.change?)
    (kind : other.kind = event.kind) (same : other.payload.mentions = event.payload.mentions)
    {batches elsewhere : Bool} (alike : event.kind = .item .member → elsewhere = batches) :
    other.commands elsewhere = event.commands batches := by
  have mapped : other.route? = event.route? := by rw [route?, route?, changed, kind]
  unfold commands
  rw [mapped, changed, kind]
  cases found : event.route? with
  | none => rfl
  | some route =>
    obtain ⟨change, -, listed⟩ := find?_of_route? found
    exact congrArg Except.ok
      (expand_congr same fun batch => alike ((Route.shape_eq_batch_iff listed).1 batch))

end Notification

namespace Outlet

theorem route_apply (event : Notification) (outlet : Outlet) :
    route event outlet = Attempt.ofExcept (event.commands outlet.sink.batches) outlet := rfl

/-- Routing is refused exactly if the change and the kind are not in the table of routes, and the
failure names both. Otherwise the commands answer the records by the route in the table. Another
notification of that change and kind whose records say the same is answered alike, on any sink, or
if it is about members on any that takes batches just if this one does. -/
theorem route_answers_record_by_record (event : Notification) (outlet : Outlet) :
    ∃ answer : Except Failure (List Command),
      route event outlet = Attempt.ofExcept answer outlet ∧
      (answer = .error (.unrouted event.change? event.kind) ↔ event.Unrouted) ∧
      (event.topic = .general →
        event.Unrouted ∧ Failure.changeText event.change? = "None") ∧
      (∀ change, event.change? = some change →
        Failure.changeText event.change? = code change) ∧
      (∀ change found, event.change? = some change → (change, event.kind, found) ∈ Route.all →
        ∃ commands, answer = .ok commands ∧
          found.Answers event outlet.sink.batches commands) ∧
      ∀ (other : Notification) (elsewhere : Outlet), other.change? = event.change? →
        other.kind = event.kind → other.payload.mentions = event.payload.mentions →
          (event.kind = .item .member → elsewhere.sink.batches = outlet.sink.batches) →
            route other elsewhere = Attempt.ofExcept answer elsewhere := by
  refine ⟨event.commands outlet.sink.batches, route_apply event outlet, ?_, ?_, ?_, ?_, ?_⟩
  · rw [← Notification.route?_eq_none_iff, Notification.commands]
    cases event.route? <;> simp
  · intro general
    have untold : event.change? = none := by rw [Notification.change?, general]; rfl
    refine ⟨?_, by rw [untold]; rfl⟩
    intro change route changed
    rw [untold] at changed
    cases changed
  · intro change changed
    rw [changed]
    rfl
  · intro change found changed listed
    have mapped : event.route? = some found := by
      rw [Notification.route?, changed]
      exact Route.mem_all_iff.1 listed
    exact ⟨_, Notification.commands_eq_ok_iff.2 ⟨found, mapped, rfl⟩,
      Notification.answers_expand mapped outlet.sink.batches⟩
  · intro other elsewhere changed kind same alike
    rw [route_apply, Notification.commands_congr changed kind same alike]

/-- Deleted members go together, one of them twice, on a sink that takes batches. -/
theorem route_answers_member_batch :
    let event : Notification :=
      { topic := .family .deleted
        kind := .item .member
        payload := .entities [⟨4⟩, ⟨9⟩, ⟨4⟩]
        admitted := fun _ pinned => nomatch pinned }
    let outlet : Outlet := ⟨.recorder ⟨some (.text "yes"), false, Recorder.acceptAll, []⟩, []⟩
    (.deleted, event.kind, ⟨.member, .remove, .batch⟩) ∈ Route.all ∧
      route event outlet = .ok [⟨.member, .remove, [4, 9, 4]⟩] outlet := by
  intro event outlet
  have listed : (.deleted, event.kind, ⟨.member, .remove, .batch⟩) ∈ Route.all :=
    Route.mem_all_iff.2 rfl
  obtain ⟨answer, routed, -, -, -, answered, -⟩ := route_answers_record_by_record event outlet
  obtain ⟨commands, rfl, answers⟩ := answered .deleted _ rfl listed
  have taken : outlet.sink.batches = true := by decide
  rw [routed, answers.together rfl taken (List.cons_ne_nil _ _)]
  exact ⟨listed, rfl⟩

end Outlet

end Invalidation
