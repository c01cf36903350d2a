import AgentGraph.Proofs.Program.Startup
import AgentGraph.Proofs.Program.StartTimes
import AgentGraph.Proofs.Literal.Written

/-!
The arguments that instances of behaviours are made with. They come in one order, their numbers
are such as a period and a delay can be, and they depend on the fields that the behaviour's kind
and mode select: what was left behind in the others never shows.
-/

namespace AgentGraph

open Literal

namespace Binary64

/-- The number that a double stands for: the two zeros are one. -/
def number : Binary64 → Binary64
  | .finite value => if value.isZero then .finite zero else .finite value
  | other => other

theorem number_cases (seconds : Binary64) :
    seconds.number = seconds ∨
      ∃ value, seconds = .finite value ∧ value.isZero = true ∧ seconds.number = .finite zero := by
  cases seconds with
  | infinite | nan => exact .inl rfl
  | finite value =>
      cases isZero : value.isZero with
      | false => exact .inl (by simp [number, isZero])
      | true => exact .inr ⟨value, rfl, isZero, by simp [number, isZero]⟩

@[simp] theorem isFinite_number (seconds : Binary64) :
    seconds.number.isFinite = seconds.isFinite := by
  rcases seconds.number_cases with same | ⟨value, rfl, isZero, same⟩
  · rw [same]
  · rw [same]
    rfl

@[simp] theorem isPositive_number (seconds : Binary64) :
    seconds.number.isPositive = seconds.isPositive := by
  rcases seconds.number_cases with same | ⟨value, rfl, isZero, same⟩
  · rw [same]
  · rw [same, isPositive, isPositive, isZero]
    cases value.negative <;> rfl

@[simp] theorem isNonnegative_number (seconds : Binary64) :
    seconds.number.isNonnegative = seconds.isNonnegative := by
  rcases seconds.number_cases with same | ⟨value, rfl, isZero, same⟩
  · rw [same]
  · rw [same, isNonnegative, isNonnegative, isZero]
    cases value.negative <;> rfl

end Binary64

theorem Literal.number_number (seconds : Binary64) :
    Literal.number seconds.number = Literal.number seconds := by
  rcases seconds.number_cases with same | ⟨value, rfl, isZero, same⟩
  · rw [same]
  · rw [same, number_of_isZero isZero, number_of_isZero rfl]

namespace Argument

def keyword : Argument → String
  | .period _ => "period"
  | .startAt _ => "start_at"
  | .template _ => "template"

def expression : Argument → String
  | .period seconds => Literal.number seconds
  | .startAt start => start.expression
  | .template name => name

theorem text_eq (argument : Argument) :
    argument.text = argument.keyword ++ "=" ++ argument.expression := by
  cases argument <;> rfl

theorem text_wallClock (moment : Calendar.Moment) : (Argument.startAt (.wallClock moment)).text =
    "start_at=datetime.datetime(" ++ StartTime.momentText moment ++ ")" := by
  have opening : "start_at=" ++ "datetime.datetime(" = "start_at=datetime.datetime(" := by
    decide +kernel
  unfold text StartTime.expression
  dsimp only
  rw [← String.append_assoc, ← String.append_assoc, opening]

theorem text_instant (moment : Calendar.Moment) : (Argument.startAt (.instant moment)).text =
    "start_at=datetime.datetime(" ++ StartTime.momentText moment ++
      ", tzinfo=datetime.timezone.utc)" := by
  have opening : "start_at=" ++ "datetime.datetime(" = "start_at=datetime.datetime(" := by
    decide +kernel
  unfold text StartTime.expression
  dsimp only
  rw [← String.append_assoc, ← String.append_assoc, opening]

theorem text_delay (seconds : Binary64) : (Argument.startAt (.delay seconds)).text =
    "start_at=datetime.datetime.now() + datetime.timedelta(seconds=" ++
      Literal.number seconds ++ ")" := by
  have opening : "start_at=" ++ "datetime.datetime.now() + datetime.timedelta(seconds=" =
      "start_at=datetime.datetime.now() + datetime.timedelta(seconds=" := by
    decide +kernel
  unfold text StartTime.expression
  dsimp only
  rw [← String.append_assoc, ← String.append_assoc, opening]

/-- How an argument is written, a period or a delay with a number that it can be. -/
def IsValid (argument : Argument) : Prop :=
  match argument with
  | .period seconds => argument.text = "period=" ++ Literal.number seconds ∧
      seconds.isFinite = true ∧ seconds.isPositive = true ∧
      ∃ digits places, Writes (Literal.number seconds).toList digits places ∧ 0 < digits
  | .startAt (.delay seconds) =>
      argument.text = "start_at=datetime.datetime.now() + datetime.timedelta(seconds=" ++
        Literal.number seconds ++ ")" ∧
      seconds.isFinite = true ∧ seconds.isNonnegative = true ∧
      ∃ digits places, Writes (Literal.number seconds).toList digits places
  | .startAt (.wallClock moment) =>
      argument.text = "start_at=datetime.datetime(" ++ StartTime.momentText moment ++ ")"
  | .startAt (.instant moment) =>
      argument.text = "start_at=datetime.datetime(" ++ StartTime.momentText moment ++
        ", tzinfo=datetime.timezone.utc)"
  | .template name => argument.text = "template=" ++ name

end Argument

namespace Behaviour

/-- Whether two behaviours agree in their kind and in what it selects: in whether a timed start is
relative and then in the delay, else in the text of the start; and in the period where it counts. -/
structure SelectsAlike (behaviour other : Behaviour) : Prop where
  kind : other.kind = behaviour.kind
  mode : behaviour.kind = .timeout ∨ behaviour.kind = .periodic →
    (other.startMode = some .relative ↔ behaviour.startMode = some .relative)
  startOffset : behaviour.kind = .timeout ∨ behaviour.kind = .periodic →
    behaviour.startMode = some .relative →
      other.startOffset.map Binary64.number = behaviour.startOffset.map Binary64.number
  startAt : behaviour.kind = .timeout ∨ behaviour.kind = .periodic →
    behaviour.startMode ≠ some .relative → other.startAt = behaviour.startAt
  period : behaviour.kind = .periodic →
    other.period.map Binary64.number = behaviour.period.map Binary64.number

section Fields

variable (behaviour : Behaviour)

/-- The delay is not looked at where the start is absolute, and the text not where it is relative. -/
theorem start?_eq : behaviour.start? =
    if behaviour.startMode = some .relative then
      (behaviour.startOffset.bind validDelay?).map .delay
    else behaviour.startAt.bind StartTime.ofText? := by
  rw [start?]
  cases behaviour.startMode with
  | none => rfl
  | some mode => cases mode <;> rfl

theorem map_validPeriod? :
    behaviour.validPeriod?.map Literal.number =
      ((behaviour.period.map Binary64.number).filter fun period =>
        period.isFinite && period.isPositive).map Literal.number := by
  rw [validPeriod?]
  cases behaviour.period with
  | none => rfl
  | some period =>
      rw [Option.map_some, Option.filter_some, Option.filter_some, Binary64.isFinite_number,
        Binary64.isPositive_number]
      split
      · rw [Option.map_some, Option.map_some, Literal.number_number]
      · rfl

theorem map_validDelay? :
    (behaviour.startOffset.bind validDelay?).map Literal.number =
      ((behaviour.startOffset.map Binary64.number).bind validDelay?).map Literal.number := by
  cases behaviour.startOffset with
  | none => rfl
  | some seconds =>
      simp only [Option.map_some, Option.bind_some, validDelay?, Binary64.isFinite_number,
        Binary64.isNonnegative_number]
      split
      · rw [Option.map_some, Option.map_some, Literal.number_number]
      · rfl

end Fields

variable {behaviour other : Behaviour}

theorem SelectsAlike.period_text (alike : behaviour.SelectsAlike other)
    (kind : behaviour.kind = .periodic) :
    other.validPeriod?.map (Argument.text ∘ .period) =
      behaviour.validPeriod?.map (Argument.text ∘ .period) := by
  have text : Argument.text ∘ .period = ("period=" ++ ·) ∘ Literal.number := rfl
  rw [text, ← Option.map_map, ← Option.map_map, map_validPeriod?, map_validPeriod?,
    alike.period kind]

theorem SelectsAlike.start_text (alike : behaviour.SelectsAlike other)
    (kind : behaviour.kind = .timeout ∨ behaviour.kind = .periodic) :
    other.start?.map (Argument.text ∘ .startAt) =
      behaviour.start?.map (Argument.text ∘ .startAt) := by
  rw [start?_eq, start?_eq]
  by_cases mode : behaviour.startMode = some .relative
  · have text : (Argument.text ∘ .startAt) ∘ .delay = (fun amount => "start_at=" ++
        ("datetime.datetime.now() + datetime.timedelta(seconds=" ++ amount ++ ")")) ∘
        Literal.number := rfl
    rw [if_pos mode, if_pos ((alike.mode kind).mpr mode), Option.map_map, Option.map_map, text,
      ← Option.map_map, ← Option.map_map, map_validDelay?, map_validDelay?,
      alike.startOffset kind mode]
  · rw [if_neg mode, if_neg (mt (alike.mode kind).mp mode), alike.startAt kind mode]

theorem SelectsAlike.arguments_text (alike : behaviour.SelectsAlike other)
    (template : Option String) :
    (other.arguments template).map Argument.text =
      (behaviour.arguments template).map Argument.text := by
  have listed {α : Type} (held : Option α) (wrap : α → Argument) :
      (held.map wrap).toList.map Argument.text = (held.map (Argument.text ∘ wrap)).toList := by
    cases held <;> rfl
  unfold arguments timing
  rw [alike.kind, List.map_append, List.map_append]
  congr 1
  cases kind : behaviour.kind with
  | cyclic | oneShot | fsm => rfl
  | timeout =>
      dsimp only
      rw [listed, listed, alike.start_text (.inl kind)]
  | periodic =>
      dsimp only
      rw [List.map_append, List.map_append, listed, listed, listed, listed,
        alike.period_text kind, alike.start_text (.inr kind)]

theorem keywords_sublist (template : Option String) :
    ((behaviour.arguments template).map Argument.keyword).Sublist
      ["period", "start_at", "template"] := by
  have period : ((behaviour.validPeriod?.map Argument.period).toList.map Argument.keyword).Sublist
      ["period"] := by
    cases behaviour.validPeriod? <;> simp [Argument.keyword]
  have start : ((behaviour.start?.map Argument.startAt).toList.map Argument.keyword).Sublist
      ["start_at"] := by
    cases behaviour.start? <;> simp [Argument.keyword]
  have last : ((template.map Argument.template).toList.map Argument.keyword).Sublist
      ["template"] := by
    cases template <;> simp [Argument.keyword]
  have timing : (behaviour.timing.map Argument.keyword).Sublist ["period", "start_at"] := by
    unfold timing
    cases behaviour.kind with
    | cyclic | oneShot | fsm => exact List.nil_sublist _
    | timeout => exact start.trans (List.sublist_cons_self _ _)
    | periodic =>
        rw [List.map_append]
        exact period.append start
  unfold arguments
  rw [List.map_append]
  exact timing.append last

theorem isValid_period {seconds : Binary64} (counts : behaviour.validPeriod? = some seconds) :
    (Argument.period seconds).IsValid := by
  obtain ⟨-, valid⟩ := Option.filter_eq_some_iff.mp counts
  rw [Bool.and_eq_true] at valid
  obtain ⟨isFinite, isPositive⟩ := valid
  refine ⟨rfl, isFinite, isPositive, ?_⟩
  cases seconds with
  | infinite | nan => contradiction
  | finite value =>
      rw [Binary64.isPositive, Bool.and_eq_true, Bool.not_eq_true', Bool.not_eq_true'] at isPositive
      have positive : 0 < value.rank.val := Nat.pos_of_ne_zero (ne_of_beq_false isPositive.2)
      have nonnegative : (Binary64.finite value).isNonnegative = true := by
        rw [Binary64.isNonnegative, isPositive.1]
        rfl
      obtain ⟨digits, places, writes, rounds⟩ := number_writes nonnegative
      have written := Binary64.numerator_pos positive (Nat.pow_pos (by decide)) rounds
      exact ⟨digits, places, writes, Nat.pos_of_mul_pos_right written⟩

theorem isValid_startAt {start : StartTime} (begins : behaviour.start? = some start) :
    (Argument.startAt start).IsValid := by
  cases start with
  | wallClock moment => exact Argument.text_wallClock moment
  | instant moment => exact Argument.text_instant moment
  | delay seconds =>
      rw [start?_eq] at begins
      split at begins
      · obtain ⟨delay, counts, same⟩ := Option.map_eq_some_iff.mp begins
        obtain rfl : delay = seconds := StartTime.delay.inj same
        obtain ⟨offset, -, valid⟩ := Option.bind_eq_some_iff.mp counts
        rw [validDelay?, Option.ite_none_right_eq_some, Bool.and_eq_true] at valid
        obtain ⟨⟨isFinite, isNonnegative⟩, same⟩ := valid
        obtain rfl : offset = delay := Option.some.inj same
        refine ⟨Argument.text_delay offset, isFinite, isNonnegative, ?_⟩
        cases offset with
        | infinite | nan => contradiction
        | finite value =>
            obtain ⟨digits, places, writes, -⟩ := number_writes isNonnegative
            exact ⟨digits, places, writes⟩
      · -- A text is read as a moment, so the number of a delay is always one of the offset.
        obtain ⟨text, -, parsed⟩ := Option.bind_eq_some_iff.mp begins
        obtain ⟨moment, tells⟩ := StartTime.exists_moment_of_ofText? parsed
        rcases tells with tells | tells <;> exact absurd tells nofun

theorem isValid_of_mem {template : Option String} {argument : Argument}
    (inside : argument ∈ behaviour.arguments template) : argument.IsValid := by
  rcases cases_of_mem_arguments inside with ⟨_, counts, rfl⟩ | ⟨_, begins, rfl⟩ | ⟨_, -, rfl⟩
  · exact isValid_period counts
  · exact isValid_startAt begins
  · exact rfl

/-- The arguments are a period, a start and a template, in this order and where they are there,
the template wherever one is given. A period is a positive number and a delay no negative one,
and all that they depend on is what the kind and the mode of the behaviour select. -/
theorem arguments_spec (behaviour : Behaviour) (template : Option String) :
    ((behaviour.arguments template).map Argument.keyword).Sublist
        ["period", "start_at", "template"] ∧
      (∀ name, .template name ∈ behaviour.arguments template ↔ template = some name) ∧
      (∀ argument ∈ behaviour.arguments template, argument.IsValid ∧
        argument.text = argument.keyword ++ "=" ++ argument.expression) ∧
      ∀ other, behaviour.SelectsAlike other →
        (other.arguments template).map Argument.text =
          (behaviour.arguments template).map Argument.text :=
  ⟨keywords_sublist template, fun _ => mem_arguments_template,
    fun argument inside => ⟨isValid_of_mem inside, argument.text_eq⟩,
    fun _ alike => alike.arguments_text template⟩

end Behaviour

end AgentGraph
