import LdapService.Directory.Shared
import LdapService.Proofs.Directory.Agreement
import LdapService.Proofs.Handler.Questions
import LdapService.Proofs.Session.Blocks
import LdapService.Proofs.Session.Inevitable

/-!
What a search brings its client: the entries in scope of which the filter is true, in the
order of the directory, up to the size limit, and a result that says whether there are
more. Neither the cache nor whatever other sessions do in between makes a difference.
-/

namespace LdapService

def Filter.isTrueOf (filter : Filter) (entry : Entry) : Bool :=
  match filter.evaluate .standard entry.get? with
  | .ok truth => truth = .holds
  | .error _ => false

theorem Filter.isTrueOf_iff {filter : Filter} {entry : Entry} :
    filter.isTrueOf entry = true ↔ filter.evaluate .standard entry.get? = .ok .holds := by
  rw [isTrueOf]
  split
  · next evaluated => simp [evaluated]
  · next evaluated => simp [evaluated]

def DirectoryService.selects (base : String) (scope : Scope) (filter : Filter) (entry : Entry) :
    Bool :=
  inScope (Dn.normalize entry.dn) base scope && filter.isTrueOf entry

def Directory.found (directory : Directory) (request : SearchRequest) : List Entry :=
  directory.entries.filter
    (DirectoryService.selects (Dn.normalize request.base) request.scope request.filter)

def Directory.Has (directory : Directory) (name : String) : Prop :=
  ∃ entry ∈ directory.entries, Dn.normalize entry.dn = name

theorem Directory.isSome_get?_iff {directory : Directory} {dn : String} :
    (directory.get? dn).isSome = true ↔ directory.Has (Dn.normalize dn) := by
  rw [get?_eq_head?, List.isSome_head?]
  simp [Has]

def Directory.ofNames (names : List String) (distinct : (names.map Dn.normalize).Nodup) :
    Directory where
  stored := names.map fun dn => .ofRecord { dn }
  normalized := by
    intro item mem
    obtain ⟨dn, -, rfl⟩ := List.mem_map.1 mem
    rfl
  distinct := by
    rw [List.map_map]
    exact distinct

def SearchRequest.IsTimely (request : SearchRequest) (begun now : Nat) : Prop :=
  request.timeLimit = 0 ∨ now < begun + request.timeLimit * 1000

namespace SearchStream

/-- The entries, of those that a search still finds, for which there is room. -/
def fitting (stream : SearchStream) (entries : List Entry) : List Entry :=
  if stream.sizeLimit = 0 then entries else entries.take (stream.sizeLimit - stream.sent)

/-- How a search ends that still finds these entries. -/
def verdict (stream : SearchStream) (entries : List Entry) : ResultCode :=
  if 0 < stream.sizeLimit ∧ stream.sizeLimit < stream.sent + entries.length then .sizeLimitExceeded
  else .success

theorem fitting_nil (stream : SearchStream) : stream.fitting [] = [] := by
  simp [fitting]

theorem verdict_nil {stream : SearchStream}
    (within : stream.sizeLimit = 0 ∨ stream.sent ≤ stream.sizeLimit) :
    stream.verdict [] = .success := by
  rw [verdict, if_neg]
  simp only [List.length_nil]
  omega

theorem sent_ofRequest (id now : Nat) (request : SearchRequest) :
    (ofRequest id now request).sent = 0 := rfl

/-- Below a limit that the count can hold it does not start again. -/
theorem sent_counted {stream : SearchStream} (narrow : stream.sizeLimit < 2 ^ 32)
    (more : stream.sent < stream.sizeLimit) :
    { stream with count := stream.count + 1 }.sent = stream.sent + 1 := by
  rw [sent, UInt32.toNat_add]
  exact Nat.mod_eq_of_lt (Nat.lt_of_le_of_lt more narrow)

theorem fitting_cons {stream : SearchStream} (narrow : stream.sizeLimit < 2 ^ 32)
    (room : stream.HasRoom) (entry : Entry) (entries : List Entry) :
    stream.fitting (entry :: entries) =
      entry :: { stream with count := stream.count + 1 }.fitting entries := by
  unfold fitting
  split
  · rfl
  · next limited =>
    have more := room.resolve_left limited
    have left : stream.sizeLimit - stream.sent = stream.sizeLimit - (stream.sent + 1) + 1 := by
      omega
    rw [sent_counted narrow more, left, List.take_succ_cons]

theorem verdict_cons {stream : SearchStream} (narrow : stream.sizeLimit < 2 ^ 32)
    (room : stream.HasRoom) (entry : Entry) (entries : List Entry) :
    stream.verdict (entry :: entries) =
      { stream with count := stream.count + 1 }.verdict entries := by
  unfold verdict
  rcases room with unlimited | more
  · rw [unlimited, if_neg fun full => Nat.lt_irrefl 0 full.1,
      if_neg fun full => Nat.lt_irrefl 0 full.1]
  · rw [sent_counted narrow more, List.length_cons, Nat.add_assoc, Nat.add_comm 1]

theorem fitting_of_full {stream : SearchStream} (full : ¬stream.HasRoom) (entries : List Entry) :
    stream.fitting entries = [] := by
  rw [HasRoom, not_or, Nat.not_lt] at full
  rw [fitting, if_neg full.1, Nat.sub_eq_zero_of_le full.2, List.take_zero]

theorem verdict_of_full {stream : SearchStream} (full : ¬stream.HasRoom) (entry : Entry)
    (entries : List Entry) : stream.verdict (entry :: entries) = .sizeLimitExceeded := by
  rw [HasRoom, not_or, Nat.not_lt] at full
  rw [verdict, if_pos]
  simp only [List.length_cons]
  omega

theorem send_of_full {writer : Writer} (sound : writer.IsSound) {stream : SearchStream}
    (full : ¬stream.HasRoom) (now : Nat) (entry : Entry) :
    stream.send Writer.sink now entry writer =
      (.error ⟨.sizeLimitExceeded, none⟩, stream, writer) := by
  have refused : stream.refusal? (Writer.sink.isClosed writer) now =
      some ⟨.sizeLimitExceeded, none⟩ := by
    have none_left : 0 < stream.sizeLimit ∧ stream.sizeLimit ≤ stream.sent := by
      rw [HasRoom] at full
      omega
    change stream.refusal? writer.isClosed now = _
    rw [refusal?, sound.isOpen, if_neg Bool.false_ne_true, if_pos none_left]
  simp only [send, refused]

end SearchStream

def Connection.Writes {σ : Type} (before : Connection σ) (frames : List Octets) (flow : Flow)
    (after : Connection σ) : Prop :=
  flow = .proceed ∧ after.writer.transport.written = before.writer.transport.written ++ frames

namespace Task.ComesTo

variable {ω σ : Type} {environment : Environment ω} {good : ω → Prop} {timely : Nat → Prop}

theorem answered {task : Task σ} {connection : Connection σ} (sound : connection.writer.IsSound)
    {memory : σ} {outcome : Except Failure Reply} (ends : task.program = .done memory outcome)
    {code : ResultCode} {frame : Octets} (answer : Connection.answerOf task outcome = (code, frame))
    (nonempty : frame ≠ []) :
    task.ComesTo environment good timely (connection.Writes [frame]) connection := by
  have open_ : (({ connection with memory, stage := .completed } : Connection σ).observe
      (.operation task.kind.name code)).writer.IsSound := sound
  refine done ends ?_
  simp only [Connection.conclude, answer, Connection.finish_sent open_ nonempty]
  exact ⟨rfl, rfl⟩

theorem sends {task : Task σ} {connection : Connection σ} (sound : connection.writer.IsSound)
    (room : task.stream.HasRoom)
    (early : ∀ now, timely now → task.stream.deadline.any (· ≤ now) = false) {entry : Entry}
    {next : Except Failure Unit → Program streaming σ (Except Failure Reply)}
    (asks : task.program = .ask (I := streaming) (.send entry) next) {frames : List Octets}
    (rest : ∀ connection' : Connection σ, connection'.writer.IsSound →
      ({ task with
          stream := { task.stream with count := task.stream.count + 1 }
          program := next (.ok ()) } : Task σ).ComesTo environment good timely
        (connection'.Writes frames) connection') :
    task.ComesTo environment good timely
      (connection.Writes (task.stream.frame entry :: frames)) connection := by
  refine ask asks fun now outside early' fine answer exchange told => ?_
  have sent := Exchange.answer_send environment { outside, stream := task.stream, connection }
    (SearchStream.send_of_room sound room (early now early') entry)
  cases sent.symm.trans told
  refine ⟨fine, (rest _ (sound.sent _)).mono fun flow after wrote => ⟨wrote.1, ?_⟩⟩
  rw [wrote.2]
  simp [Connection.observe, Writer.sent]

theorem refuses {task : Task σ} {connection : Connection σ} (sound : connection.writer.IsSound)
    (full : ¬task.stream.HasRoom) {entry : Entry}
    {next : Except Failure Unit → Program streaming σ (Except Failure Reply)}
    (asks : task.program = .ask (I := streaming) (.send entry) next)
    {goal : Flow → Connection σ → Prop}
    (rest : ({ task with program := next (.error ⟨.sizeLimitExceeded, none⟩) } : Task σ).ComesTo
      environment good timely goal connection) :
    task.ComesTo environment good timely goal connection := by
  refine ask asks fun now outside early' fine answer exchange told => ?_
  have refused := Exchange.answer_send environment { outside, stream := task.stream, connection }
    (SearchStream.send_of_full sound full now entry)
  cases refused.symm.trans told
  exact ⟨fine, rest⟩

end Task.ComesTo

namespace DirectoryService

variable (service : DirectoryService)

/-- However the search goes, these entries are written one by one, and then the result. The
directory stays the same, and the cache holds whatever it holds. -/
def Yields (directory : Directory) (request : SearchRequest) (entries : List Entry)
    (code : ResultCode) (diagnostic : String) : Prop :=
  ∀ (id now : Nat) (controls : List Control) (connection : Connection Identity),
    connection.writer.IsSound →
      ∃ task begun, connection.begin service.handler now ⟨id, .search request, controls⟩ =
          (.inr task, begun) ∧
        task.ComesTo Shared.environment (fun shared => shared.directory = directory)
          (request.IsTimely now)
          (connection.Writes (entries.map (request.frame id) ++
            [Response.plain id .searchDone code diagnostic])) begun

theorem warm_succeeds (dn : String) (memory : Identity) :
    (service.warm dn memory).Meets (.free backend) fun _ outcome => outcome = .ok () := by
  rw [warm_apply]
  split
  · refine Program.meets_ask.2 ⟨trivial, fun answer _ => ?_⟩
    split
    · exact ⟨trivial, fun _ _ => rfl⟩
    · rfl
  · rfl

end DirectoryService

theorem Shared.answer_directory (question : Backend.Question) (shared : Shared) :
    (answer question shared).2.directory = shared.directory := by
  cases question <;> rfl

theorem Shared.keepsDirectory (directory : Directory) :
    (Contract.free backend).KeptBy Shared.environment.answer
      fun shared => shared.directory = directory :=
  fun question shared _ same => ⟨trivial, (answer_directory question shared).trans same⟩

namespace DirectoryService

variable (service : DirectoryService) {directory : Directory} {timely : Nat → Prop}

def answering (memory : Identity) (outcome : Except Failure Unit) :
    Program streaming Identity (Except Failure Reply) :=
  .done memory (outcome.map fun _ => .code .success)

theorem perform_search_apply (request : SearchRequest) (memory : Identity) :
    service.handler.perform (.search request) memory =
      (service.search request memory).andThen answering :=
  Operation.map_apply _ _ memory

theorem sendMatching_of_passed {base : String} {scope : Scope} {filter : Filter} {entry : Entry}
    (passed : selects base scope filter entry = false)
    (evaluates : inScope (Dn.normalize entry.dn) base scope = true →
      ∃ truth, filter.evaluate .standard entry.get? = .ok truth)
    (rest : List Entry) (memory : Identity) :
    service.sendMatching base scope filter (entry :: rest) memory =
      service.sendMatching base scope filter rest memory := by
  rw [sendMatching_cons_apply]
  by_cases inside : inScope (Dn.normalize entry.dn) base scope = true
  · obtain ⟨truth, evaluated⟩ := evaluates inside
    rw [selects, inside, Bool.true_and, Filter.isTrueOf, evaluated] at passed
    rw [if_pos inside, evaluated]
    cases truth with
    | fails => rfl
    | undefined => rfl
    | holds => cases passed
  · rw [if_neg inside]

theorem sendMatching_of_selected {base : String} {scope : Scope} {filter : Filter} {entry : Entry}
    (selected : selects base scope filter entry = true) (rest : List Entry) (memory : Identity) :
    service.sendMatching base scope filter (entry :: rest) memory =
      .ask (I := streaming) (.send entry) fun answer =>
        match answer with
        | .error failure => .done memory (.error failure)
        | .ok _ => ((service.warm entry.dn).toStreaming memory).andThen
            fun memory outcome => match outcome with
              | .ok () => service.sendMatching base scope filter rest memory
              | .error failure => .done memory (.error failure) := by
  obtain ⟨inside, holds⟩ := (Bool.and_eq_true _ _).mp selected
  have sends := service.sendMatching_cons_apply base scope filter entry rest memory
  rw [if_pos inside, Filter.isTrueOf_iff.1 holds] at sends
  exact sends

theorem sendMatching_comesTo {base : String} {scope : Scope} {filter : Filter}
    {entries : List Entry} {memory : Identity} (task : Task Identity)
    {connection : Connection Identity} (sound : connection.writer.IsSound)
    (searches : task.response = .searchDone)
    (sending : task.program =
      (service.sendMatching base scope filter entries memory).andThen answering)
    (evaluates : ∀ entry ∈ entries, inScope (Dn.normalize entry.dn) base scope = true →
      ∃ truth, filter.evaluate .standard entry.get? = .ok truth)
    (early : ∀ now, timely now → task.stream.deadline.any (· ≤ now) = false)
    (narrow : task.stream.sizeLimit < 2 ^ 32)
    (within : task.stream.sizeLimit = 0 ∨ task.stream.sent ≤ task.stream.sizeLimit) :
    let found := entries.filter (selects base scope filter)
    task.ComesTo Shared.environment (fun shared => shared.directory = directory) timely
      (connection.Writes ((task.stream.fitting found).map task.stream.frame ++
        [Response.plain task.id .searchDone (task.stream.verdict found) ""])) connection := by
  -- On the entries still to come. The count of the stream says how much room there is, and the
  -- frames written so far are in the connection that the goal starts from.
  induction entries generalizing task connection memory with
  | nil =>
    simp only [List.filter_nil, SearchStream.fitting_nil, SearchStream.verdict_nil within,
      List.map_nil, List.nil_append]
    rw [← searches]
    exact .answered sound sending rfl (Response.message_ne_nil _ _)
  | cons entry rest ih =>
    obtain ⟨here, others⟩ := List.forall_mem_cons.1 evaluates
    cases selected : selects base scope filter entry with
    | false =>
      rw [service.sendMatching_of_passed selected here] at sending
      simp only [List.filter_cons, selected, Bool.false_eq_true, if_false]
      exact ih task sound searches sending others early narrow within
    | true =>
      rw [service.sendMatching_of_selected selected] at sending
      simp only [List.filter_cons, selected, if_true]
      by_cases room : task.stream.HasRoom
      · rw [SearchStream.fitting_cons narrow room, SearchStream.verdict_cons narrow room,
          List.map_cons, List.cons_append]
        refine .sends sound room early sending fun connection' sound' => ?_
        refine .throughBackend (Shared.keepsDirectory directory)
          (service.warm_succeeds entry.dn memory) (Program.andThen_assoc _ _ _) ?_
        rintro memory _ rfl
        refine ih
          { task with stream := { task.stream with count := task.stream.count + 1 }, program := _ }
          sound' searches rfl others early narrow (room.imp_right fun more => ?_)
        exact Nat.le_trans (Nat.le_of_eq (SearchStream.sent_counted narrow more)) more
      · rw [SearchStream.fitting_of_full room, SearchStream.verdict_of_full room]
        refine .refuses sound room sending ?_
        rw [List.map_nil, List.nil_append, ← searches]
        exact .answered sound rfl rfl (Response.message_ne_nil _ _)

theorem search_comesTo_missing {request : SearchRequest} {memory : Identity}
    (task : Task Identity) (connection : Connection Identity) (sound : connection.writer.IsSound)
    (searches : task.response = .searchDone)
    (searching : task.program = (service.search request memory).andThen answering)
    (missing : ¬(Dn.isWithin (Dn.normalize request.base) service.base = true ∧
      directory.Has (Dn.normalize request.base))) :
    task.ComesTo Shared.environment (fun shared => shared.directory = directory) timely
      (connection.Writes [Response.plain task.id .searchDone .noSuchObject
        s!"No such object: {Dn.normalize request.base}"]) connection := by
  rw [search_apply] at searching
  rw [← searches]
  by_cases within : Dn.isWithin (Dn.normalize request.base) service.base = true
  · rw [if_pos within] at searching
    have absent : directory.get? (Dn.normalize request.base) = none := by
      have unnamed : ¬directory.Has (Dn.normalize request.base) := fun has => missing ⟨within, has⟩
      rwa [← Dn.normalize_normalize, ← Directory.isSome_get?_iff, Bool.not_eq_true,
        Option.isSome_eq_false_iff, Option.isNone_iff_eq_none] at unnamed
    refine .askBackend searching fun shared same => ⟨same, ?_⟩
    have told : (Shared.environment.answer (.getEntry (Dn.normalize request.base)) shared).1 =
        .ok none := by
      rw [← absent, ← same]
      rfl
    simp only [told]
    exact .answered sound rfl rfl (Response.message_ne_nil _ _)
  · rw [if_neg within] at searching
    exact .answered sound searching rfl (Response.message_ne_nil _ _)

theorem search_comesTo_found {request : SearchRequest} {memory : Identity}
    (task : Task Identity) (connection : Connection Identity) (sound : connection.writer.IsSound)
    (searches : task.response = .searchDone)
    (searching : task.program = (service.search request memory).andThen answering)
    (within : Dn.isWithin (Dn.normalize request.base) service.base = true)
    (present : directory.Has (Dn.normalize request.base))
    (evaluates : ∀ entry ∈ directory.entries,
      inScope (Dn.normalize entry.dn) (Dn.normalize request.base) request.scope = true →
        ∃ truth, request.filter.evaluate .standard entry.get? = .ok truth)
    (early : ∀ now, timely now → task.stream.deadline.any (· ≤ now) = false)
    (narrow : task.stream.sizeLimit < 2 ^ 32) (fresh : task.stream.sent = 0) :
    task.ComesTo Shared.environment (fun shared => shared.directory = directory) timely
      (connection.Writes
        ((task.stream.fitting (directory.found request)).map task.stream.frame ++
          [Response.plain task.id .searchDone (task.stream.verdict (directory.found request)) ""]))
      connection := by
  rw [search_apply, if_pos within] at searching
  have isSome : (directory.get? (Dn.normalize request.base)).isSome = true := by
    rw [Directory.isSome_get?_iff, Dn.normalize_normalize]
    exact present
  obtain ⟨entry, got⟩ := Option.isSome_iff_exists.1 isSome
  refine .askBackend searching fun shared same => ⟨same, ?_⟩
  have told : (Shared.environment.answer (.getEntry (Dn.normalize request.base)) shared).1 =
      .ok (some entry) := by
    rw [← got, ← same]
    rfl
  simp only [told]
  refine .askBackend rfl fun shared same => ⟨same, ?_⟩
  have listed : (Shared.environment.answer .listEntries shared).1 = .ok directory.entries := by
    rw [← same]
    rfl
  simp only [listed]
  have room : task.stream.sizeLimit = 0 ∨ task.stream.sent ≤ task.stream.sizeLimit :=
    .inr (fresh ▸ Nat.zero_le _)
  let sending := service.sendMatching (Dn.normalize request.base) request.scope request.filter
    directory.entries memory
  exact service.sendMatching_comesTo { task with program := sending.andThen answering } sound
    searches rfl evaluates early narrow room

def searchTask (id now : Nat) (request : SearchRequest) (memory : Identity) : Task Identity where
  id := id
  kind := .search
  response := .searchDone
  stream := .ofRequest id now request
  program := (service.search request memory).andThen answering

theorem begin_search (id now : Nat) (request : SearchRequest) (controls : List Control)
    (connection : Connection Identity) :
    connection.begin service.handler now ⟨id, .search request, controls⟩ =
      (.inr (service.searchTask id now request connection.memory),
        { connection with stage := .streaming }) := by
  rw [searchTask, ← perform_search_apply]
  rfl

theorem yields_missing {request : SearchRequest}
    (missing : ¬(Dn.isWithin (Dn.normalize request.base) service.base = true ∧
      directory.Has (Dn.normalize request.base))) :
    service.Yields directory request [] .noSuchObject
      s!"No such object: {Dn.normalize request.base}" := by
  intro id now controls connection sound
  refine ⟨_, _, service.begin_search id now request controls connection, ?_⟩
  exact service.search_comesTo_missing (service.searchTask id now request connection.memory)
    { connection with stage := .streaming } sound rfl rfl missing

theorem yields_found (request : SearchRequest)
    (within : Dn.isWithin (Dn.normalize request.base) service.base = true)
    (present : directory.Has (Dn.normalize request.base))
    (evaluates : ∀ entry ∈ directory.entries,
      inScope (Dn.normalize entry.dn) (Dn.normalize request.base) request.scope = true →
        ∃ truth, request.filter.evaluate .standard entry.get? = .ok truth)
    (narrow : request.sizeLimit < 2 ^ 32) :
    service.Yields directory request
      (if request.sizeLimit = 0 then directory.found request
        else (directory.found request).take request.sizeLimit)
      (if 0 < request.sizeLimit ∧ request.sizeLimit < (directory.found request).length then
        .sizeLimitExceeded else .success) "" := by
  intro id now controls connection sound
  have early (later : Nat) (timely : request.IsTimely now later) :
      (SearchStream.ofRequest id now request).deadline.any (· ≤ later) = false := by
    rw [SearchStream.ofRequest]
    split
    · rfl
    · next limited =>
      have before := timely.resolve_left limited
      simpa using before
  have fits : (SearchStream.ofRequest id now request).fitting (directory.found request) =
      if request.sizeLimit = 0 then directory.found request
      else (directory.found request).take request.sizeLimit := rfl
  have ends : (SearchStream.ofRequest id now request).verdict (directory.found request) =
      if 0 < request.sizeLimit ∧ request.sizeLimit < (directory.found request).length then
        .sizeLimitExceeded else .success := by
    rw [SearchStream.verdict, SearchStream.sent_ofRequest, Nat.zero_add]
    rfl
  rw [← fits, ← ends]
  refine ⟨_, _, service.begin_search id now request controls connection, ?_⟩
  exact service.search_comesTo_found (service.searchTask id now request connection.memory)
    { connection with stage := .streaming } sound rfl rfl within present evaluates early narrow rfl

theorem Yields.handle {request : SearchRequest} {entries : List Entry} {code : ResultCode}
    {diagnostic : String} (yields : service.Yields directory request entries code diagnostic)
    (id now : Nat) (controls : List Control) {connection : Connection Identity}
    (sound : connection.writer.IsSound) {shared : Shared} (same : shared.directory = directory) :
    ∃ shared' connection', connection.handle service.handler Shared.environment now
        ⟨id, .search request, controls⟩ shared = (.proceed, shared', connection') ∧
      connection'.writer.transport.written = connection.writer.transport.written ++
        (entries.map (request.frame id) ++ [Response.plain id .searchDone code diagnostic]) := by
  obtain ⟨task, begun, taken, comes⟩ := yields id now controls connection sound
  have early : request.IsTimely now now := by
    unfold SearchRequest.IsTimely
    omega
  obtain ⟨flow, shared', connection', ran, -, rfl, written⟩ := comes.run early same
  refine ⟨shared', connection', ?_, written⟩
  simp only [Connection.handle, taken, ran]

/-- A search sends what it finds, in the order of the directory and each entry once, as far
as the size limit lets it; its result says whether that was all. Without its base, or
outside that of the service, it sends nothing. -/
theorem search_result (request : SearchRequest)
    (evaluates : ∀ entry ∈ directory.entries,
      inScope (Dn.normalize entry.dn) (Dn.normalize request.base) request.scope = true →
        ∃ truth, request.filter.evaluate .standard entry.get? = .ok truth) :
    (¬(Dn.isWithin (Dn.normalize request.base) service.base = true ∧
        directory.Has (Dn.normalize request.base)) →
      service.Yields directory request [] .noSuchObject
        s!"No such object: {Dn.normalize request.base}") ∧
    (Dn.isWithin (Dn.normalize request.base) service.base = true ∧
        directory.Has (Dn.normalize request.base) → request.sizeLimit < 2 ^ 32 →
      service.Yields directory request
        (if request.sizeLimit = 0 then directory.found request
          else (directory.found request).take request.sizeLimit)
        (if 0 < request.sizeLimit ∧ request.sizeLimit < (directory.found request).length then
          .sizeLimitExceeded else .success) "") :=
  ⟨service.yields_missing,
    fun ⟨within, present⟩ => service.yields_found request within present evaluates⟩

/-- Two names below a branch, and a search that may be sent one of them. -/
theorem search_result_limited :
    let directory := Directory.ofNames ["ou=people", "cn=Ann,ou=people", "cn=Bob,ou=people"]
      (by decide +kernel)
    let request : SearchRequest :=
      { base := "OU=People", scope := .oneLevel, sizeLimit := 1, filter := .always }
    ∃ shared connection, Connection.handle (handler ⟨"ou=people", false⟩) Shared.environment 0
        ⟨1, .search request, []⟩ { directory } { memory := .anonymous } =
          (.proceed, shared, connection) ∧
      connection.writer.transport.written =
        [request.frame 1 { dn := "cn=Ann,ou=people" },
          Response.plain 1 .searchDone .sizeLimitExceeded ""] := by
  intro directory request
  have found : directory.found request =
      [{ dn := "cn=Ann,ou=people" }, { dn := "cn=Bob,ou=people" }] := by decide +kernel
  have there : Dn.isWithin (Dn.normalize request.base) "ou=people" = true ∧
      directory.Has (Dn.normalize request.base) := by
    refine ⟨by decide +kernel, { dn := "ou=people" }, by decide +kernel, by decide +kernel⟩
  have yields := (search_result ⟨"ou=people", false⟩ request fun _ _ _ => ⟨.holds, rfl⟩).2 there
    (by decide)
  rw [found] at yields
  exact Yields.handle _ yields 1 0 [] ⟨rfl, rfl, rfl⟩ rfl

end DirectoryService

end LdapService
