import LogGate.Proofs.OneLine
import LogGate.Session.Logging

/-!
Lines of printable ASCII. A record is written as one such line, whatever its parts hold, and each handler
that the record reaches adds the one line break at the end.
-/

namespace LogGate

/-- Every line of an output ends with a line break. -/
def lineBreaks (output : String) : Nat := output.toList.count '\n'

theorem lineBreaks_empty : lineBreaks "" = 0 := rfl

/-- Line breaks add up. -/
theorem lineBreaks_append (first second : String) :
    lineBreaks (first ++ second) = lineBreaks first + lineBreaks second := by
  rw [lineBreaks, String.toList_append, List.count_append]
  rfl

/-- Repeating a text repeats its line breaks. -/
theorem lineBreaks_join_replicate (count : Nat) (text : String) :
    lineBreaks (String.join (List.replicate count text)) = count * lineBreaks text := by
  induction count with
  | zero => rw [List.replicate_zero, Nat.zero_mul, String.join_nil, lineBreaks_empty]
  | succ count ih =>
      rw [List.replicate_succ, String.join_cons, lineBreaks_append, ih, Nat.succ_mul, Nat.add_comm]

namespace Line

variable {record : Record} {withTime : Bool} {text : String}

/-- A line is a mapping of members, so that it is plain like every other value. -/
theorem plainAscii_ofRecord (written : ofRecord record withTime = .ok text) :
    Text.PlainAscii text.toList := by
  obtain ⟨all, -, rendered⟩ := Except.bind_eq_ok_iff.mp written
  exact Json.plainAscii_value rendered

/-- A line has no line break inside. -/
theorem lineBreaks_ofRecord (written : ofRecord record withTime = .ok text) : lineBreaks text = 0 :=
  List.count_eq_zero.mpr (plainAscii_ofRecord written).newline_not_mem

end Line

namespace Act

variable {session : Session} {context : Context} {target : Option String} {record : Record}

/-- A written line ends with its only line break. -/
theorem lineBreaks_lineOf {line : String} (written : Line.ofRecord record true = .ok line) :
    lineBreaks (lineOf record) = 1 := by
  rw [lineOf, written]
  exact (lineBreaks_append line "\n").trans (congrArg (· + 1) (Line.lineBreaks_ofRecord written))

/-- A record that is let pass is written once for each handler. -/
theorem output_of_admitted
    (admitted : (session.loggers.get target).admits session.registry context record = .ok true) :
    output session context target record =
      .ok (String.join (List.replicate (session.loggers.handlerCount target) (lineOf record))) := by
  rw [output, admitted]
  rfl

/-- A record that is denied is not written. -/
theorem output_of_denied
    (denied : (session.loggers.get target).admits session.registry context record = .ok false) :
    output session context target record = .ok "" := by
  rw [output, denied]
  rfl

/-- What is left of a record that cannot be written is nothing, however many handlers it reaches. -/
theorem output_of_unwritable {failure : Failure} (unwritable : Line.ofRecord record true = .error failure)
    {admitted : Bool}
    (judged : (session.loggers.get target).admits session.registry context record = .ok admitted) :
    output session context target record = .ok "" := by
  cases admitted with
  | false => exact output_of_denied judged
  | true =>
      have nothing : lineOf record = "" := by rw [lineOf, unwritable]
      rw [output_of_admitted judged, nothing]
      induction session.loggers.handlerCount target with
      | zero => rfl
      | succ count ih => rw [List.replicate_succ, String.join_cons, Except.ok.inj ih, String.empty_append]

end Act

/-- A record of any content is written with characters from the blank to the tilde only, if it is written
at all. Each handler that it reaches writes this line with the one line break behind it. A record that is
denied or that cannot be written leaves nothing. A record at a level number is always judged. -/
theorem record_is_written_on_one_plain_line (record : Record) :
    (∀ withTime text, Line.ofRecord record withTime = .ok text →
      ∀ c ∈ text.toList, 0x20 ≤ c.toNat ∧ c.toNat ≤ 0x7E) ∧
    ∀ (session : Session) (context : Context) (target : Option String),
      let output := Act.output session context target record
      let judged := (session.loggers.get target).admits session.registry context record
      let handlers := session.loggers.handlerCount target
      (∀ line, judged = .ok true → Line.ofRecord record true = .ok line →
        let lines := String.join (List.replicate handlers (line ++ "\n"))
        output = .ok lines ∧ lineBreaks (line ++ "\n") = 1 ∧ lineBreaks lines = handlers) ∧
      (judged = .ok false → output = .ok "") ∧
      (∀ failure admitted, Line.ofRecord record true = .error failure → judged = .ok admitted →
        output = .ok "") ∧
      (∀ failure, judged = .error failure → output = .error failure) ∧
      ((∃ number, record.level = .int number) → ∃ admitted, judged = .ok admitted) := by
  constructor
  · intro withTime text written c inside
    have plain : Text.isPlainAscii c = true := Line.plainAscii_ofRecord written c inside
    rw [Text.isPlainAscii, Bool.and_eq_true, decide_eq_true_eq, decide_eq_true_eq] at plain
    omega
  · intro session context target output judged handlers
    refine ⟨fun line passed written => ?_, Act.output_of_denied,
      fun _ _ unwritable => Act.output_of_unwritable unwritable, fun failure failed => ?_, ?_⟩
    · intro lines
      have shown : Act.lineOf record = line ++ "\n" := by rw [Act.lineOf, written]
      have broken : lineBreaks (line ++ "\n") = 1 := shown ▸ Act.lineBreaks_lineOf written
      have joined : output = .ok (String.join (List.replicate handlers (Act.lineOf record))) :=
        Act.output_of_admitted passed
      rw [shown] at joined
      refine ⟨joined, broken, ?_⟩
      rw [lineBreaks_join_replicate, broken, Nat.mul_one]
    · exact congrArg (Except.map _) failed
    · rintro ⟨number, leveled⟩
      exact ⟨_, Logger.admits_int _ _ context leveled⟩

/-- A record that tries to start a second line: in its logger, its message, its error, and in names and
values of its context. -/
def forgingRecord : Record where
  name := .text "svc\n\x7b\x7d"
  level := .int 40
  levelName := .text "ERROR\r"
  message := .text "down\n\x7b\"level\":\"INFO\"\x7d\x7f"
  arguments := .tuple []
  report := some (.raised .key [.text "\n", .bytes [10, 0xff]])
  created := .float (.ofInt 1700000000)
  attributes := [("ctx_a\n", .text "ä😀\u2028"),
    ("ctx_b", .mapping [(.text "c\n", .list [.float (.undefined 0), .tuple [.bytes [10], .absent]]),
      (.float (.ofInt 2), .pair (.text "\n") (.level ⟨"LOUD\n", 5, false⟩))])]

/-- A logger that writes to one handler and judges by no rule. -/
def oneHandler : List Step :=
  [.operation (.newConfig (some "c") []), .operation (.getLogger (.text "svc") (some "c"))]

theorem forging_record_is_written_on_one_plain_line :
    let session := (runAll ⟨0, []⟩ Session.initial oneHandler).2.2
    ∃ line, Line.ofRecord forgingRecord true = .ok line ∧
      (∀ c ∈ line.toList, 0x20 ≤ c.toNat ∧ c.toNat ≤ 0x7E) ∧
      ∃ output, Act.output session [] (some "svc") forgingRecord = .ok output ∧
        lineBreaks output = 1 := by
  intro session
  obtain ⟨plain, handled⟩ := record_is_written_on_one_plain_line forgingRecord
  cases written : Line.ofRecord forgingRecord true with
  | error failure =>
      have held : (Line.ofRecord forgingRecord true).toOption.isSome = true := by decide +kernel
      rw [written] at held
      cases held
  | ok line =>
      have admitted : (session.loggers.get (some "svc")).admits session.registry [] forgingRecord =
          .ok true := by
        apply Except.toOption_eq_some_iff.mp
        decide +kernel
      have one : session.loggers.handlerCount (some "svc") = 1 := by decide +kernel
      obtain ⟨output, -, counted⟩ := (handled session [] (some "svc")).1 line admitted written
      exact ⟨line, rfl, plain true line written, _, output, counted.trans one⟩

end LogGate
