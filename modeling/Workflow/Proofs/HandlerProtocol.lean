import Workflow.Proofs.DefinitionRoundTrip
import Workflow.Proofs.TextBytes
import Workflow.Task.Command
/-! # The handler process protocol

A command handler writes the request envelope, `{"input":…,"context":…}`, to the program it
starts and reads the reply envelope the program writes back (`CommandHandler.call`).  With
the passthrough as the program the two envelopes undo each other
(`CommandHandler.call_passthrough`): the handler gets back the input it sent, `null`
included, unless `PASSTHROUGH_FAIL` is set; then the call fails with the type the variable
holds and a message naming the state, with no trace.  The variable is looked up in the
program's environment, the host's variables, then the handler's, then the state's, so the
state's win over the handler's and those over the host's (`Exec.lookupVar_append`).

The input must be one the JSON codec reads back inside an envelope: canonical (keys
ascending, integers in the 64-bit ranges) in the nesting room the envelope leaves it
(`Value.Canonical 127`), with every double written as a text that reads back as itself
(`FloatReadsBack`).  The program must start: its working directory is a directory and its
command resolves to the passthrough (`resolve_passthroughPath`: the passthrough's own path
always does).  And it must end within the timeout, which any positive timeout allows, since
the passthrough takes no time.

Each leg is a lemma of its own:

* the bytes of a text carry it unchanged both ways (`decodeUtf8_bytesOf`,
  `lossyUtf8_bytesOf`);
* the passthrough reads a request as its input and the invocation's value, the context's
  fields sorted by name (`reads_wireText`), and answers with the input or with the failure
  asked for (`passthrough_wireText`);
* the handler reads each answer back as what it stands for
  (`CommandHandler.readReply_answer`).
-/

namespace Workflow

open Json Json.Reader Json.NumberText Decode Decode.TextDecode Exec Text

/-! ## The request -/

/-- The passthrough's slots once the fields at positions `seen` are read. -/
def PassRequest.mix (req : PassRequest) (seen : List Nat) : PassRequest where
  input := if 0 ∈ seen then req.input else .null
  context := if 1 ∈ seen then req.context else .null

/-- A value with an object's fields sorted, as the reader keeps them, nested values as they
are. -/
def Json.Value.sortFields : Value → Value
  | .obj fs => Value.object fs
  | v => v

theorem Invocation.toValue_stateName (inv : Invocation) :
    inv.toValue.field? "stateName" = some (.str inv.stateName) := by
  simp [Invocation.toValue, Value.field?, Fields.get?]

/-- **The passthrough reads a request as its input and the invocation's value**: the context's
fields, written in the request's order, come back sorted by name, and so do the
environment's. -/
theorem reads_wireText {v : Value} (inv : Invocation) (hv : v.Canonical 127)
    (hf : ∀ b ∈ v.doubles, FloatReadsBack b) (hretry : inv.retryCount ≤ u64Max) :
    Reads 128 (Decoder.record PassRequest.spec) (Envelope.wireText ⟨v, inv⟩).toList
      ⟨v, inv.toValue⟩ := by
  unfold Envelope.wireText
  refine reads_record (PassRequest.mix ⟨v, inv.toValue⟩) _ (by omega) rfl (by simp) ?_ ?_
  · intro p hp
    simp only [List.mem_cons, List.not_mem_nil, or_false] at hp
    rcases hp with rfl | rfl
    · exact ⟨0, rfl, fun seen => (reads_value hv hf).set _ (by simp [PassRequest.mix])⟩
    refine ⟨1, rfl, fun seen => Reads.set (reads_value_of_readsAs (w := fun _ => inv.toValue) ?_) _
      (by simp [PassRequest.mix])⟩
    refine ReadsAs.obj (g := fun p => p.2.sortFields) (by omega) ?_ ?_
    · intro p hp
      simp only [List.mem_cons, List.not_mem_nil, or_false] at hp
      rcases hp with rfl | rfl | rfl | rfl
      · exact readsAs_self trivial (by simp [Value.doubles]) rfl
      · exact readsAs_self trivial (by simp [Value.doubles]) rfl
      · exact readsAs_self ⟨by omega, by omega⟩ (by simp [Value.ofNat, Value.doubles]) rfl
      · refine ReadsAs.obj (g := fun p => p.2) (by omega) (fun p hp => ?_) rfl
        obtain ⟨⟨k', v'⟩, -, rfl⟩ := List.mem_map.mp hp
        exact readsAs_self trivial (by simp [Value.doubles]) rfl
    · have h₁ : ¬ "stateName" < "executionArn" := by decide
      have h₂ : ¬ "retryCount" < "executionArn" := by decide
      have h₃ : "retryCount" < "stateName" := by decide
      have h₄ : "environment" < "executionArn" := by decide
      simp only [List.foldl, Fields.insert, Value.sortFields, Value.ofNat, Invocation.toValue,
        h₁, h₂, h₃, h₄, if_true, if_false, String.reduceEq]
  · intro seen hseen
    have h₀ : 0 ∈ seen := (hseen 0).mpr ⟨_, List.mem_cons_self, rfl⟩
    have h₁ : 1 ∈ seen := (hseen 1).mpr ⟨_, List.mem_cons_of_mem _ List.mem_cons_self, rfl⟩
    refine ⟨by simp [firstMissing, PassRequest.spec], ?_⟩
    simp [PassRequest.spec, PassRequest.mix, h₀, h₁]

theorem passReply_wireText {v : Value} (inv : Invocation) (hv : v.Canonical 127)
    (hf : ∀ b ∈ v.doubles, FloatReadsBack b) (hretry : inv.retryCount ≤ u64Max)
    (failWith : Option String) :
    passReply (Envelope.wireText ⟨v, inv⟩) failWith =
      failWith.elim (passAnswer "ok" (some v) none none) fun t =>
        passAnswer "error" none (some ("asked to fail in state " ++ inv.stateName)) (some t) := by
  rw [passReply, decodeText, run_of_reads (reads_wireText inv hv hf hretry)]
  cases failWith <;> simp [Invocation.toValue_stateName]

/-- **The passthrough process answers a request with its input**, or with the failure it is
asked for when `PASSTHROUGH_FAIL` is set in its environment; it writes nothing else and exits
at once with status zero. -/
theorem passthrough_wireText {v : Value} (inv : Invocation) (hv : v.Canonical 127)
    (hf : ∀ b ∈ v.doubles, FloatReadsBack b) (hretry : inv.retryCount ≤ u64Max)
    (env : List (String × String)) :
    passthrough (bytesOf (Envelope.wireText ⟨v, inv⟩)) env =
      { stdout := bytesOf ((lookupVar env "PASSTHROUGH_FAIL").elim
          (passAnswer "ok" (some v) none none) fun t =>
            passAnswer "error" none (some ("asked to fail in state " ++ inv.stateName)) (some t)) } := by
  rw [passthrough, decodeUtf8_bytesOf]
  dsimp only
  rw [passReply_wireText inv hv hf hretry]

/-! ## The reply -/

/-- A reply's slots once the fields at positions `seen` are read. -/
def Reply.mix (r : Reply) (seen : List Nat) : Reply where
  status := if 0 ∈ seen then r.status else ""
  output := if 1 ∈ seen then r.output else none
  error := if 2 ∈ seen then r.error else none
  errorType := if 3 ∈ seen then r.errorType else none
  trace := if 4 ∈ seen then r.trace else none

theorem Reply.mix_eq {r : Reply} {seen : List Nat} (h₀ : 0 ∈ seen ∨ r.status = "")
    (h₁ : 1 ∈ seen ∨ r.output = none) (h₂ : 2 ∈ seen ∨ r.error = none)
    (h₃ : 3 ∈ seen ∨ r.errorType = none) (h₄ : 4 ∈ seen ∨ r.trace = none) :
    Reply.mix r seen = r := by
  obtain ⟨status, output, error, errorType, trace⟩ := r
  simp only [Reply.mix, Reply.mk.injEq, ite_eq_left_iff]
  exact ⟨fun hn => (h₀.resolve_left hn).symm, fun hn => (h₁.resolve_left hn).symm,
    fun hn => (h₂.resolve_left hn).symm, fun hn => (h₃.resolve_left hn).symm,
    fun hn => (h₄.resolve_left hn).symm⟩

theorem reads_passAnswer_ok {v : Value} (hv : v.Canonical 127)
    (hf : ∀ b ∈ v.doubles, FloatReadsBack b) :
    Reads 128 (Reply.decode : Reader Reply) (passAnswer "ok" (some v) none none).toList
      { status := "ok", output := if v = .null then none else some v } := by
  have hout : Reads 127 (Decoder.option Decoder.value : Reader (Option Value)) v.render.toList
      (if v = .null then none else some v) := by
    by_cases hnull : v = .null
    · subst hnull
      simpa using reads_option_none (Decoder.value : Reader Value)
    · simpa [hnull] using reads_option_of_ne_null (reads_value hv hf) hnull hf
  simp only [passAnswer, Option.map_some, Option.map_none, Option.toList_some,
    Option.toList_none, List.append_nil, List.cons_append, List.nil_append]
  refine reads_record (Reply.mix { status := "ok", output := if v = .null then none else some v })
    _ (by omega) rfl (by simp) ?_ ?_
  · intro p hp
    simp only [List.mem_cons, List.not_mem_nil, or_false] at hp
    rcases hp with rfl | rfl
    · exact ⟨0, rfl, fun seen => (reads_text _ "ok").set _ (by simp [Reply.mix])⟩
    · exact ⟨1, rfl, fun seen => hout.set _ (by simp [Reply.mix])⟩
  · intro seen hseen
    have h₀ : 0 ∈ seen := (hseen 0).mpr ⟨_, List.mem_cons_self, rfl⟩
    have h₁ : 1 ∈ seen := (hseen 1).mpr ⟨_, List.mem_cons_of_mem _ List.mem_cons_self, rfl⟩
    exact ⟨by simp [firstMissing, Reply.spec, h₀],
      Reply.mix_eq (.inl h₀) (.inl h₁) (.inr rfl) (.inr rfl) (.inr rfl)⟩

theorem reads_passAnswer_error (msg t : String) :
    Reads 128 (Reply.decode : Reader Reply) (passAnswer "error" none (some msg) (some t)).toList
      (Reply.failure t msg) := by
  simp only [passAnswer, Option.map_some, Option.map_none, Option.toList_some,
    Option.toList_none, List.append_nil, List.cons_append, List.nil_append]
  refine reads_record (Reply.mix (Reply.failure t msg)) _ (by omega) rfl (by simp) ?_ ?_
  · intro p hp
    simp only [List.mem_cons, List.not_mem_nil, or_false] at hp
    rcases hp with rfl | rfl | rfl
    · exact ⟨0, rfl, fun seen => (reads_text _ "error").set _ (by simp [Reply.mix, Reply.failure])⟩
    · exact ⟨2, rfl, fun seen => (reads_optionalString msg).set _
        (by simp [Reply.mix, Reply.failure])⟩
    · exact ⟨3, rfl, fun seen => (reads_optionalString t).set _
        (by simp [Reply.mix, Reply.failure])⟩
  · intro seen hseen
    have h₀ : 0 ∈ seen := (hseen 0).mpr ⟨_, List.mem_cons_self, rfl⟩
    have h₂ : 2 ∈ seen := (hseen 2).mpr ⟨_, List.mem_cons_of_mem _ List.mem_cons_self, rfl⟩
    have h₃ : 3 ∈ seen :=
      (hseen 3).mpr ⟨_, List.mem_cons_of_mem _ (List.mem_cons_of_mem _ List.mem_cons_self), rfl⟩
    exact ⟨by simp [firstMissing, Reply.spec, h₀],
      Reply.mix_eq (.inl h₀) (.inr rfl) (.inl h₂) (.inl h₃) (.inr rfl)⟩

theorem trim_passAnswer (status : String) (output : Option Value) (error errorType : Option String) :
    trim (passAnswer status output error errorType) = passAnswer status output error errorType := by
  unfold passAnswer
  apply trim_of_ends
  · simp only [Value.render_obj_toList, List.head?_cons, Option.mem_def, Option.some.injEq]
    rintro _ rfl
    rfl
  · simp only [Value.render_obj_toList, ← List.cons_append, List.getLast?_append,
      List.getLast?_singleton, Option.some_or, Option.mem_def, Option.some.injEq]
    rintro _ rfl
    rfl

theorem CommandHandler.readReply_ok (c : CommandHandler) {v : Value} (hv : v.Canonical 127)
    (hf : ∀ b ∈ v.doubles, FloatReadsBack b) :
    c.readReply (passAnswer "ok" (some v) none none) = .ok v := by
  have hrun := run_of_reads (reads_passAnswer_ok hv hf)
  by_cases hnull : v = .null <;>
    simp_all [CommandHandler.readReply, trim_passAnswer, decodeText, Reply.decode, Reply.isOk]

theorem CommandHandler.readReply_error (c : CommandHandler) (msg t : String) :
    c.readReply (passAnswer "error" none (some msg) (some t)) = .error (.failed t msg none) := by
  have hrun := run_of_reads (reads_passAnswer_error msg t)
  simp_all [CommandHandler.readReply, trim_passAnswer, decodeText, Reply.decode, Reply.isOk,
    Reply.failure, TaskError.fail]

theorem CommandHandler.readReply_answer (c : CommandHandler) {v : Value} (hv : v.Canonical 127)
    (hf : ∀ b ∈ v.doubles, FloatReadsBack b) (state : String) (failWith : Option String) :
    c.readReply (failWith.elim (passAnswer "ok" (some v) none none) fun t =>
        passAnswer "error" none (some ("asked to fail in state " ++ state)) (some t)) =
      failWith.elim (.ok v) fun t => .error (.failed t ("asked to fail in state " ++ state) none) := by
  cases failWith with
  | none => exact c.readReply_ok hv hf
  | some t => exact c.readReply_error _ t

/-! ## Where the passthrough is found -/

/-- The components of the passthrough's path.  `splitOn` recurses on positions in the text,
which neither `decide` nor `rfl` unfold, so the split is stepped through its equation. -/
theorem components_passthroughPath :
    Host.components passthroughPath = ["usr", "local", "bin", "stately-passthrough"] := by
  have hsplit : passthroughPath.splitOn "/" =
      ["", "usr", "local", "bin", "stately-passthrough"] := by
    rw [passthroughPath, String.splitOn, if_neg (by decide)]
    repeat (rw [String.splitOnAux.eq_1]; simp +decide only [ite_true, ite_false])
  rw [Host.components, hsplit]
  decide

theorem installedAt_passthroughPath : installedAt passthroughPath = some .passthrough := by
  have hnormal : ("/" ++ "/".intercalate (Host.components passthroughPath) == passthroughPath) =
      true := by
    rw [components_passthroughPath]
    decide +kernel
  simp [installedAt, hnormal]

/-- **The passthrough's own path starts it**, on every host, whatever the search path and the
working directory. -/
theorem resolve_passthroughPath (h : Host) (searchPath cwd : String) :
    resolve h searchPath cwd passthroughPath = .ok .passthrough := by
  have habs : h.isAbsolute passthroughPath = true := by
    simp only [Host.isAbsolute, Bool.or_eq_true]
    exact Or.inl (Or.inl (by decide +kernel))
  have hslash : passthroughPath.contains '/' = true := by
    rw [String.contains_char_eq]
    decide
  have hne : passthroughPath.isEmpty = false := by decide +kernel
  simp [resolve, hne, hslash, Host.join, Host.joinWith, habs, programAt,
    installedAt_passthroughPath]

/-! ## The round trip -/

theorem Exec.lookupVar_append (a b : List (String × String)) (k : String) :
    lookupVar (a ++ b) k = (lookupVar b k).or (lookupVar a k) := by
  simp only [lookupVar, List.reverse_append, List.find?_append]
  cases b.reverse.find? (fun kv => kv.1 == k) <;> rfl

theorem start_passthrough {h : Host} {program cwd : String} {args : List String}
    {env : List (String × String)} {stdin : List UInt8} (hdir : h.lookup cwd = .ok .dir)
    (hprog : resolve h ((lookupVar env "PATH").getD "") cwd program = .ok .passthrough) :
    start h ⟨program, args, env, cwd, stdin⟩ = .ok (passthrough stdin env) := by
  simp [start, hdir, hprog, nestingFuel, Shell.runProgram]

/-- **The handler process protocol is a round trip.**  A command handler whose program is the
passthrough gets back the input it sent, whatever it is, when `PASSTHROUGH_FAIL` is set
nowhere; when it is set, the call fails with the type it holds and a message naming the
state.  The state's variables win over the handler's, and those over the host's. -/
theorem CommandHandler.call_passthrough (c : CommandHandler) (h : Host) {v : Value}
    (inv : Invocation) (hv : v.Canonical 127) (hf : ∀ b ∈ v.doubles, FloatReadsBack b)
    (hretry : inv.retryCount ≤ u64Max)
    (hdir : h.lookup (h.absolute (c.cwd.getD h.cwd)) = .ok .dir)
    (hprog : resolve h ((lookupVar (h.env ++ c.env ++ inv.environment) "PATH").getD "")
      (h.absolute (c.cwd.getD h.cwd)) c.command = .ok .passthrough)
    (htimeout : 0 < c.timeoutMs) :
    (c.call h v inv).result =
      ((lookupVar inv.environment "PASSTHROUGH_FAIL").or ((lookupVar c.env "PASSTHROUGH_FAIL").or
        (lookupVar h.env "PASSTHROUGH_FAIL"))).elim (.ok v) fun t =>
        .error (.failed t ("asked to fail in state " ++ inv.stateName) none) := by
  unfold CommandHandler.call
  dsimp only
  rw [start_passthrough hdir hprog, passthrough_wireText inv hv hf hretry]
  dsimp only
  rw [if_neg (by omega), lossyUtf8_bytesOf, lookupVar_append, lookupVar_append]
  dsimp only
  split
  · exact c.readReply_answer hv hf _ _
  · rename_i hexit
    exact absurd rfl hexit

/-- A machine with no files, working in its root. -/
def passthroughSite : Host := { root := "/srv", cwd := "/srv" }

/-- A handler that runs the passthrough from its path. -/
def echoHandler : CommandHandler := { name := "echo", command := passthroughPath }

/-- An order to send through the passthrough. -/
def echoOrder : Value := .obj [("amount", .num (.int 42)), ("sku", .str "A-1")]

/-- The order comes back from a state that does not ask for a failure; a state that does gets
the failure it names. -/
theorem echoHandler_round_trip :
    (echoHandler.call passthroughSite echoOrder { stateName := "Charge" }).result =
      .ok echoOrder ∧
    (echoHandler.call passthroughSite echoOrder
        { stateName := "Charge", environment := [("PASSTHROUGH_FAIL", "Declined")] }).result =
      .error (.failed "Declined" "asked to fail in state Charge" none) := by
  have hv : echoOrder.Canonical 127 := by
    refine ⟨by decide, by unfold Fields.Ascending; decide, ?_⟩
    simp [Value.CanonicalFields, Value.Canonical, InRange, u64Max]
  have hf : ∀ b ∈ echoOrder.doubles, FloatReadsBack b := by
    simp [echoOrder, Value.doubles, Value.doublesFields]
  have hdir : passthroughSite.lookup
      (passthroughSite.absolute (echoHandler.cwd.getD passthroughSite.cwd)) = .ok .dir := by
    simp [Host.lookup, Host.locate, Host.absolute, Host.isAbsolute, Host.nodeAt, passthroughSite,
      echoHandler]
  exact ⟨CommandHandler.call_passthrough echoHandler passthroughSite _ hv hf (by decide) hdir
      (resolve_passthroughPath _ _ _) (by decide),
    CommandHandler.call_passthrough echoHandler passthroughSite _ hv hf (by decide) hdir
      (resolve_passthroughPath _ _ _) (by decide)⟩

end Workflow
