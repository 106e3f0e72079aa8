import LdapService.Proofs.Session.Serving

/-!
What a task comes to. Between two steps of a task anything may happen that leaves its
connection alone: other sessions go on, and so does the clock. A goal that is met however
that goes is met by a run without a pause, too.
-/

namespace LdapService.Task

variable {ω σ α : Type} {environment : Environment ω} {good : ω → Prop} {timely : Nat → Prop}
  {goal : Flow → Connection σ → Prop}

inductive ComesTo (environment : Environment ω) (good : ω → Prop) (timely : Nat → Prop)
    (goal : Flow → Connection σ → Prop) : Task σ → Connection σ → Prop
  | intro {task : Task σ} {connection : Connection σ}
      (goes : ∀ now outside, timely now → good outside →
        (task.step environment now outside connection).1 ≠ .waiting)
      (keeps : ∀ now outside, timely now → good outside →
        good (task.step environment now outside connection).2.1)
      (running : ∀ {now outside next outside' connection'}, timely now → good outside →
        task.step environment now outside connection = (.running next, outside', connection') →
          ComesTo environment good timely goal next connection')
      (finished : ∀ {now outside flow outside' connection'}, timely now → good outside →
        task.step environment now outside connection = (.finished flow, outside', connection') →
          goal flow connection') :
      ComesTo environment good timely goal task connection

namespace ComesTo

theorem done {task : Task σ} {connection : Connection σ} {memory : σ}
    {outcome : Except Failure Reply} (ends : task.program = .done memory outcome)
    (meets : goal (connection.conclude task memory outcome).1
      (connection.conclude task memory outcome).2) :
    task.ComesTo environment good timely goal connection := by
  refine .intro ?_ ?_ ?_ ?_
  · intro now outside _ _
    rw [step_of_done ends]
    exact nofun
  · intro now outside _ fine
    rw [step_of_done ends]
    exact fine
  · intro now outside next outside' connection' _ _ stepped
    rw [step_of_done ends] at stepped
    cases stepped
  · intro now outside flow outside' connection' _ _ stepped
    rw [step_of_done ends] at stepped
    cases stepped
    exact meets

theorem ask {task : Task σ} {connection : Connection σ} {question : Streaming.Question}
    {next : Streaming.Answer question → Program streaming σ (Except Failure Reply)}
    (asks : task.program = .ask question next)
    (told : ∀ now outside, timely now → good outside →
      ∀ answer exchange, Exchange.answer environment now question
          { outside, stream := task.stream, connection } = (answer, exchange) →
        good exchange.outside ∧
          ({ task with stream := exchange.stream, program := next answer } : Task σ).ComesTo
            environment good timely goal exchange.connection) :
    task.ComesTo environment good timely goal connection := by
  refine .intro ?_ ?_ ?_ ?_
  · intro now outside _ _
    rw [step_of_ask asks]
    exact nofun
  · intro now outside early fine
    rw [step_of_ask asks]
    exact (told now outside early fine _ _ rfl).1
  · intro now outside next outside' connection' early fine stepped
    rw [step_of_ask asks] at stepped
    cases stepped
    exact (told now outside early fine _ _ rfl).2
  · intro now outside flow outside' connection' _ _ stepped
    rw [step_of_ask asks] at stepped
    cases stepped

theorem askBackend {task : Task σ} {connection : Connection σ} {question : Backend.Question}
    {next : Backend.Answer question → Program streaming σ (Except Failure Reply)}
    (asks : task.program = .ask (I := streaming) (.backend question) next)
    (told : ∀ outside, good outside → good (environment.answer question outside).2 ∧
      ({ task with program := next (environment.answer question outside).1 } : Task σ).ComesTo
        environment good timely goal connection) :
    task.ComesTo environment good timely goal connection := by
  refine ask asks fun now outside early fine answer exchange same => ?_
  cases same
  exact told outside fine

/-- An operation without entries is passed through, whatever it is answered. -/
theorem throughBackend {contract : Contract backend} (kept : contract.KeptBy environment.answer good)
    {operation : Operation backend σ α} {memory : σ} {ended : σ → Except Failure α → Prop}
    (meets : (operation memory).Meets contract ended) {task : Task σ} {connection : Connection σ}
    {next : σ → Except Failure α → Program streaming σ (Except Failure Reply)}
    (asks : task.program = (operation.toStreaming memory).andThen next)
    (rest : ∀ memory outcome, ended memory outcome →
      ({ task with program := next memory outcome } : Task σ).ComesTo environment good timely goal
        connection) :
    task.ComesTo environment good timely goal connection := by
  unfold Operation.toStreaming at asks
  generalize operation memory = program at meets asks
  induction program generalizing task with
  | done memory outcome =>
    have left := rest memory outcome meets
    have here : ({ task with program := next memory outcome } : Task σ) = task := by
      rw [← show task.program = next memory outcome from asks]
    exact here ▸ left
  | crash => exact meets.elim
  | wait => exact meets.elim
  | ask question more ih =>
    obtain ⟨allowed, continued⟩ := meets
    refine askBackend asks fun outside fine => ?_
    obtain ⟨possible, fine'⟩ := kept question outside allowed fine
    exact ⟨fine', ih _ rest (continued _ possible) rfl⟩

theorem mono {task : Task σ} {connection : Connection σ} {weaker : Flow → Connection σ → Prop}
    (h : task.ComesTo environment good timely goal connection)
    (implied : ∀ flow connection, goal flow connection → weaker flow connection) :
    task.ComesTo environment good timely weaker connection := by
  induction h with
  | intro goes keeps running finished ih =>
    exact .intro goes keeps (fun early fine stepped => ih early fine stepped)
      fun early fine stepped => implied _ _ (finished early fine stepped)

theorem run {task : Task σ} {connection : Connection σ}
    (h : task.ComesTo environment good timely goal connection) {now : Nat} (early : timely now)
    {outside : ω} (fine : good outside) :
    ∃ flow outside' connection',
      task.run environment now outside connection = (.finished flow, outside', connection') ∧
        good outside' ∧ goal flow connection' := by
  induction h generalizing outside with
  | @intro task connection goes keeps running finished ih =>
    have goes := goes now outside early fine
    have keeps := keeps now outside early fine
    rw [Task.run]
    split
    · next stepped =>
      rw [stepped] at goes
      exact absurd rfl goes
    · next flow outside' connection' stepped =>
      rw [stepped] at keeps
      exact ⟨flow, outside', connection', rfl, keeps, finished early fine stepped⟩
    · next next outside' connection' stepped =>
      rw [stepped] at keeps
      exact ih early fine stepped keeps

end ComesTo

end LdapService.Task
