import ClusterHarness.Admin.Tool
import ClusterHarness.Proofs.CommandLine.RoundTrip

/-!
# The payload of an admin call

An operation reaches the admin tool through two layers of quoting: its arguments are quoted into
the payload, and the payload is one quoted word of the command line. Both layers are undone by
splitting, and the words that come out belong to one operation only.
-/

namespace ClusterHarness.Admin

namespace Operation

/-- The words of the verb, then the arguments. -/
def words (o : Operation) : List String := o.verbWords ++ o.arguments

/-- The operation that some words stand for. No verb begins another, so two words tell the fields
that follow. -/
def ofWords? : List String → Option Operation
  | "application" :: "add" :: descriptor :: targets => some (.applicationAdd ⟨descriptor⟩ targets)
  | ["application", "remove", descriptor] => some (.applicationRemove ⟨descriptor⟩)
  | "server" :: "add" :: node :: name :: descriptor :: executable :: libraryPath :: targets =>
    some (.serverAdd node name ⟨descriptor⟩ ⟨executable⟩ libraryPath targets)
  | ["server", "remove", name] => some (.serverRemove name)
  | ["server", "start", name] => some (.serverStart name)
  | ["adapter", "list"] => some .adapterList
  | ["shutdown"] => some .shutdown
  | ["node", "shutdown", node] => some (.nodeShutdown node)
  | _ => none

/-- An operation is read back from its words. -/
theorem ofWords?_words (o : Operation) : ofWords? o.words = some o := by
  cases o <;> rfl

private theorem words_inj {o o' : Operation} : o.words = o'.words ↔ o = o' := by
  constructor
  · intro h
    have hr := congrArg ofWords? h
    rw [ofWords?_words, ofWords?_words] at hr
    exact Option.some.inj hr
  · exact congrArg words

/-- The words of a verb need no quoting. -/
theorem verb_eq_join (o : Operation) : o.verb = CommandLine.join o.verbWords := by
  cases o <;> rfl

private theorem verbWords_ne_nil (o : Operation) : o.verbWords ≠ [] := by
  cases o <;> exact List.cons_ne_nil _ _

/-- The payload is the written form of the words. -/
theorem render_eq_join (o : Operation) : o.render = CommandLine.join o.words := by
  unfold render words
  rw [verb_eq_join]
  split
  · next h => rw [List.isEmpty_iff.mp h, List.append_nil]
  · next h =>
    have ha : o.arguments ≠ [] := by simpa [List.isEmpty_iff] using h
    rw [CommandLine.join_append o.verbWords_ne_nil ha]

/-- Splitting the payload gives the words. -/
theorem split_render (o : Operation) : CommandLine.split o.render = .ok o.words := by
  rw [render_eq_join, CommandLine.split_join]

/-- Operations with the same payload are the same, in their verb and in every field. -/
theorem render_inj {o o' : Operation} : o.render = o'.render ↔ o = o' := by
  constructor
  · intro h
    have hs := congrArg CommandLine.split h
    rw [split_render, split_render] at hs
    exact words_inj.mp (Except.ok.inj hs)
  · exact congrArg render

end Operation

namespace Tool

/-- Both layers of quoting are undone: the command line of a call is read back as it was, its last
argument splits into the words of the verb and the arguments, and neither these words nor the
payload belong to another operation. -/
theorem invocation_decodable (tool : Tool) (locator : String) (o : Operation) :
    CommandLine.parse (tool.invocation locator o).render = .ok (tool.invocation locator o) ∧
    (∃ payload, (tool.invocation locator o).args.getLast? = some payload ∧
      CommandLine.split payload = .ok (o.verbWords ++ o.arguments)) ∧
    (∀ o' : Operation, o'.verbWords ++ o'.arguments = o.verbWords ++ o.arguments → o' = o) ∧
    ∀ o' : Operation, o'.render = o.render → o' = o := by
  refine ⟨CommandLine.parse_render _, ⟨o.render, ?_, o.split_render⟩, ?_, ?_⟩
  · simp [invocation]
  · intro o' h
    exact Operation.words_inj.mp h
  · intro o' h
    exact Operation.render_inj.mp h

end Tool
end ClusterHarness.Admin
