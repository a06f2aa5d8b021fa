import MessageRepeater.Combiner.GlobalContext

/-!
# Wildcard filters for subscribers

What an entry of `disabled_subscribe_topics` and `enabled_subscribe_topics` says, and what `init` makes
of a list of them.
-/

namespace MessageRepeater.Combiner
open Foundation Config

/-- The shapes of an entry. Their texts hold no further `*`. -/
inductive Pattern where
  | literal (text : Bytes)
  | starts (stem : Bytes)
  | suffix (tail : Bytes)
  | all
  deriving DecidableEq, Repr

namespace Pattern

/-- The entry as it is written in the configuration. -/
def render : Pattern → Bytes
  | literal text => text
  | starts stem => stem ++ ascii "*"
  | suffix tail => ascii "*" ++ tail
  | all => ascii "*"

def Matches : Pattern → Topic → Prop
  | literal text, topic => topic = text
  | starts stem, topic => stem <+: topic
  | suffix tail, topic => tail <:+ topic
  | all, _ => True

/-- The byte 42 is `*`. -/
def StarFree : Pattern → Prop
  | literal text => (42 : UInt8) ∉ text
  | starts stem => (42 : UInt8) ∉ stem
  | suffix tail => (42 : UInt8) ∉ tail
  | all => True

end Pattern

/-! ### String helpers -/

namespace StrHelper

theorem startsWith_iff {str start : Bytes} : startsWith str start = true ↔ start <+: str := by
  unfold startsWith
  rw [Bool.and_eq_true, decide_eq_true_iff, beq_iff_eq, List.prefix_iff_eq_take]
  constructor
  · exact fun ⟨_, same⟩ => same.symm
  · intro same
    refine ⟨?_, same.symm⟩
    have := congrArg List.length same
    rw [List.length_take] at this
    omega

theorem endsWith_iff {str suffix : Bytes} : endsWith str suffix = true ↔ suffix <:+ str := by
  unfold endsWith
  rw [Bool.and_eq_true, decide_eq_true_iff, beq_iff_eq, List.suffix_iff_eq_drop]
  constructor
  · exact fun ⟨_, same⟩ => same.symm
  · intro same
    refine ⟨?_, same.symm⟩
    have := congrArg List.length same
    rw [List.length_drop] at this
    omega

theorem replaceString_absent {str : Bytes} {old : UInt8} (absent : old ∉ str) :
    replaceString str old [] = str := by
  induction str with
  | nil => rfl
  | cons byte rest ih =>
    obtain ⟨other, absent⟩ : old ≠ byte ∧ old ∉ rest := by simpa using absent
    simp only [replaceString, List.flatMap_cons, if_neg (Ne.symm other)] at ih ⊢
    rw [ih absent]
    rfl

theorem replaceString_append (front back : Bytes) (old : UInt8) :
    replaceString (front ++ back) old [] = replaceString front old [] ++ replaceString back old [] :=
  List.flatMap_append

theorem replaceString_star {text : Bytes} (starFree : (42 : UInt8) ∉ text) :
    replaceString (text ++ ascii "*") 42 [] = text ∧ replaceString (ascii "*" ++ text) 42 [] = text := by
  have star : replaceString (ascii "*") 42 [] = [] := rfl
  rw [replaceString_append, replaceString_append, replaceString_absent starFree, star]
  exact ⟨List.append_nil text, rfl⟩

theorem endsWith_starFree {text : Bytes} (starFree : (42 : UInt8) ∉ text) :
    ¬ endsWith text (ascii "*") = true := by
  rw [endsWith_iff]
  exact fun tail => starFree (tail.subset (by decide))

theorem startsWith_starFree {text : Bytes} (starFree : (42 : UInt8) ∉ text) :
    ¬ startsWith text (ascii "*") = true := by
  rw [startsWith_iff]
  exact fun front => starFree (front.subset (by decide))

/-- A star in front is not one at the end, if anything follows it. -/
theorem endsWith_starred {tail : Bytes} (some_ : tail ≠ []) (starFree : (42 : UInt8) ∉ tail) :
    ¬ endsWith (ascii "*" ++ tail) (ascii "*") = true := by
  rw [endsWith_iff]
  intro last
  have inTail : ascii "*" <:+ tail := by
    refine List.suffix_of_suffix_length_le last (List.suffix_append _ _) ?_
    exact List.length_pos_iff.mpr some_
  exact starFree (inTail.subset (by decide))

end StrHelper

/-! ### One entry -/

theorem reserved_star : GlobalContext.isReservedTopic (ascii "*") = true := rfl

theorem accepts_iff {filter : TopicFilter} {topic : Topic} :
    filter.accepts topic = true ↔
      topic ∈ filter.names ∨ (∃ stem ∈ filter.starts, stem <+: topic) ∨
        ∃ tail ∈ filter.suffixes, tail <:+ topic := by
  simp only [TopicFilter.accepts, Bool.or_eq_true, List.contains_iff_mem, List.any_eq_true,
    StrHelper.startsWith_iff, StrHelper.endsWith_iff, or_assoc]

/-- What `init` keeps of an entry that is not reserved. -/
theorem initFilter_pattern {filter : TopicFilter} {entry : Pattern} (starFree : entry.StarFree)
    (kept : GlobalContext.isReservedTopic entry.render = false) :
    GlobalContext.initFilter filter entry.render =
      match entry with
      | .literal text => { filter with names := filter.names.insert text }
      | .starts stem => { filter with starts := filter.starts ++ [stem] }
      | .suffix tail => { filter with suffixes := filter.suffixes ++ [tail] }
      | .all => filter := by
  have refused : ¬ GlobalContext.isReservedTopic entry.render = true := by
    rw [kept]
    exact nofun
  unfold GlobalContext.initFilter
  rw [if_neg refused]
  cases entry with
  | literal text =>
    show (if StrHelper.endsWith text (ascii "*") = true then _ else _) = _
    rw [if_neg (StrHelper.endsWith_starFree starFree)]
    show (if StrHelper.startsWith text (ascii "*") = true then _ else _) = _
    rw [if_neg (StrHelper.startsWith_starFree starFree)]
    rfl
  | starts stem =>
    have ends : StrHelper.endsWith (stem ++ ascii "*") (ascii "*") = true :=
      StrHelper.endsWith_iff.mpr (List.suffix_append _ _)
    show (if StrHelper.endsWith (stem ++ ascii "*") (ascii "*") = true then _ else _) = _
    rw [if_pos ends]
    show { filter with starts := filter.starts ++ [StrHelper.replaceString (stem ++ ascii "*") 42 []] } = _
    rw [(StrHelper.replaceString_star starFree).1]
  | suffix tail =>
    have some_ : tail ≠ [] := by
      rintro rfl
      exact absurd (reserved_star.symm.trans kept) nofun
    have begins : StrHelper.startsWith (ascii "*" ++ tail) (ascii "*") = true :=
      StrHelper.startsWith_iff.mpr (List.prefix_append _ _)
    show (if StrHelper.endsWith (ascii "*" ++ tail) (ascii "*") = true then _ else _) = _
    rw [if_neg (StrHelper.endsWith_starred some_ starFree)]
    show (if StrHelper.startsWith (ascii "*" ++ tail) (ascii "*") = true then _ else _) = _
    rw [if_pos begins]
    show { filter with
      suffixes := filter.suffixes ++ [StrHelper.replaceString (ascii "*" ++ tail) 42 []] } = _
    rw [(StrHelper.replaceString_star starFree).2]
  | all => exact absurd (reserved_star.symm.trans kept) nofun

/-- A further text in a list, where some text of the list has to satisfy `Fits`. -/
theorem exists_concat {texts : List Bytes} {text : Bytes} {Fits : Bytes → Prop} :
    (∃ other ∈ texts ++ [text], Fits other) ↔ (∃ other ∈ texts, Fits other) ∨ Fits text := by
  simp only [List.mem_append, List.mem_singleton, or_and_right, exists_or, exists_eq_left]

/-- A kept entry lets in what it matches, a reserved one nothing. -/
theorem initFilter_accepts {filter : TopicFilter} {entry : Pattern} (starFree : entry.StarFree)
    (topic : Topic) :
    (GlobalContext.initFilter filter entry.render).accepts topic = true ↔
      filter.accepts topic = true ∨
        (GlobalContext.isReservedTopic entry.render = false ∧ entry.Matches topic) := by
  cases kept : GlobalContext.isReservedTopic entry.render with
  | true =>
    have same : GlobalContext.initFilter filter entry.render = filter := if_pos kept
    rw [same]
    exact ⟨.inl, fun cases_ => cases_.resolve_right fun right => nomatch right.1⟩
  | false =>
    rw [initFilter_pattern starFree kept, accepts_iff, accepts_iff]
    cases entry with
    | literal text =>
      simp only [Pattern.Matches, List.mem_insert_iff, true_and]
      constructor
      · rintro ((rfl | name) | rest)
        · exact .inr rfl
        · exact .inl (.inl name)
        · exact .inl (.inr rest)
      · rintro ((name | rest) | rfl)
        · exact .inl (.inr name)
        · exact .inr rest
        · exact .inl (.inl rfl)
    | starts stem =>
      simp only [Pattern.Matches, exists_concat, true_and]
      rw [or_right_comm (b := stem <+: topic)]
      exact or_assoc.symm
    | suffix tail =>
      simp only [Pattern.Matches, exists_concat, true_and]
      rw [or_assoc, or_assoc]
    | all => exact absurd (reserved_star.symm.trans kept) nofun

theorem initFilter_empty {filter : TopicFilter} {entry : Pattern} (starFree : entry.StarFree) :
    GlobalContext.initFilter filter entry.render = {} ↔
      filter = {} ∧ GlobalContext.isReservedTopic entry.render = true := by
  cases kept : GlobalContext.isReservedTopic entry.render with
  | true =>
    have same : GlobalContext.initFilter filter entry.render = filter := if_pos kept
    rw [same]
    exact ⟨fun empty => ⟨empty, rfl⟩, And.left⟩
  | false =>
    rw [initFilter_pattern starFree kept]
    refine iff_of_false ?_ fun both => nomatch both.2
    cases entry with
    | literal text =>
      intro empty
      have none_ := congrArg TopicFilter.names empty
      have member : text ∈ filter.names.insert text := List.mem_insert_self
      rw [show filter.names.insert text = [] from none_] at member
      cases member
    | starts stem => simp
    | suffix tail => simp
    | all => exact absurd (reserved_star.symm.trans kept) nofun

/-! ### A list of entries -/

section
variable {entries : List Pattern} (starFree : ∀ entry ∈ entries, entry.StarFree)
include starFree

theorem foldl_accepts (filter : TopicFilter) (topic : Topic) :
    ((entries.map Pattern.render).foldl GlobalContext.initFilter filter).accepts topic = true ↔
      filter.accepts topic = true ∨
        ∃ entry ∈ entries, GlobalContext.isReservedTopic entry.render = false ∧
          entry.Matches topic := by
  induction entries generalizing filter with
  | nil => simp
  | cons entry entries ih =>
    obtain ⟨first, rest⟩ := List.forall_mem_cons.mp starFree
    rw [List.map_cons, List.foldl_cons, ih rest, initFilter_accepts first, or_assoc]
    simp only [List.mem_cons, or_and_right, exists_or, exists_eq_left]

theorem foldl_empty (filter : TopicFilter) :
    (entries.map Pattern.render).foldl GlobalContext.initFilter filter = {} ↔
      filter = {} ∧ ∀ entry ∈ entries, GlobalContext.isReservedTopic entry.render = true := by
  induction entries generalizing filter with
  | nil => simp
  | cons entry entries ih =>
    obtain ⟨first, rest⟩ := List.forall_mem_cons.mp starFree
    rw [List.map_cons, List.foldl_cons, ih rest, initFilter_empty first, and_assoc, List.forall_mem_cons]

end

theorem init_filters (config : RepeaterConfig) :
    (GlobalContext.init config).disabledSubscribeTopics =
        config.disabledSubscribeTopics.foldl GlobalContext.initFilter {} ∧
      (GlobalContext.init config).enabledSubscribeTopics =
        config.enabledSubscribeTopics.foldl GlobalContext.initFilter {} := by
  unfold GlobalContext.init
  refine List.foldlRecOn (motive := fun context : GlobalContext =>
    context.disabledSubscribeTopics = _ ∧ context.enabledSubscribeTopics = _)
    config.layerSubscribeAddresses _ ?_ fun context same address _ => ?_
  · refine List.foldlRecOn (motive := fun context : GlobalContext =>
      context.disabledSubscribeTopics = _ ∧ context.enabledSubscribeTopics = _)
      config.layerSubscribeTopics _ ⟨rfl, rfl⟩ fun context same topic _ => ?_
    unfold GlobalContext.initLayerTopic
    split <;> exact same
  · unfold GlobalContext.initLayerAddress
    split <;> exact same

/-! ### Where the filters mean what their lists say -/

/-- The filters decide `topic` by the plain reading of the two lists. -/
structure FiltersAgree (context : GlobalContext) (disabled enabled : List Pattern) (topic : Topic) :
    Prop where
  disabled : context.isDisabledSubscribeTopic topic = true ↔ ∃ entry ∈ disabled, entry.Matches topic
  enabled : context.isEnabledSubscribeTopic topic = true ↔
    enabled = [] ∨ ∃ entry ∈ enabled, entry.Matches topic

/-- There is an entry `*`, and no other entry matches. -/
def OnlyStar (entries : List Pattern) (topic : Topic) : Prop :=
  (∃ entry ∈ entries, entry.render = ascii "*") ∧
    ∀ entry ∈ entries, entry.Matches topic → entry.render = ascii "*"

/-- Every entry is a reserved name, and none is `*`. -/
def OnlyReserved (entries : List Pattern) : Prop :=
  ∀ entry ∈ entries, GlobalContext.isReservedTopic entry.render = true ∧ entry.render ≠ ascii "*"

theorem reserved_of_star_mem {name : Bytes} (star : (42 : UInt8) ∈ name)
    (reserved : GlobalContext.isReservedTopic name = true) : name = ascii "*" := by
  simp only [GlobalContext.isReservedTopic, Bool.or_eq_true, beq_iff_eq] at reserved
  rcases reserved with (((same | rfl) | rfl) | rfl) | rfl
  · exact same
  all_goals exact absurd star (by decide)

theorem star_matches {entry : Pattern} (starFree : entry.StarFree) (star : entry.render = ascii "*")
    (topic : Topic) : entry.Matches topic := by
  cases entry with
  | literal text =>
    obtain rfl : text = ascii "*" := star
    exact absurd List.mem_cons_self starFree
  | starts stem =>
    obtain rfl : stem = [] := List.append_cancel_right (star.trans (List.nil_append _).symm)
    exact List.nil_prefix
  | suffix tail =>
    obtain rfl : tail = [] := List.append_cancel_left (star.trans (List.append_nil _).symm)
    exact List.nil_suffix
  | all => trivial

/-- An entry that matches a topic that is not reserved is kept, unless it is `*`. -/
theorem matching_kept {entry : Pattern} {topic : Topic}
    (free : GlobalContext.isReservedTopic topic = false) (hit : entry.Matches topic)
    (other : entry.render ≠ ascii "*") : GlobalContext.isReservedTopic entry.render = false := by
  by_contra dropped
  have reserved := Bool.eq_true_of_not_eq_false dropped
  cases entry with
  | literal text =>
    obtain rfl : topic = text := hit
    exact absurd (free.symm.trans reserved) nofun
  | starts stem =>
    exact other (reserved_of_star_mem (List.mem_append_right stem List.mem_cons_self) reserved)
  | suffix tail => exact other (reserved_of_star_mem List.mem_cons_self reserved)
  | all => exact other rfl

section
variable {config : RepeaterConfig} {topic : Topic} (free : GlobalContext.isReservedTopic topic = false)
include free

/-- The kept entries answer as the whole list, unless only `*` matches. -/
theorem kept_iff {entries : List Pattern} (starFree : ∀ entry ∈ entries, entry.StarFree) :
    ((∃ entry ∈ entries, GlobalContext.isReservedTopic entry.render = false ∧ entry.Matches topic) ↔
      ∃ entry ∈ entries, entry.Matches topic) ↔ ¬ OnlyStar entries topic := by
  constructor
  · rintro same ⟨⟨star, member, text⟩, only⟩
    obtain ⟨entry, keptIn, kept, hit⟩ :=
      same.mpr ⟨star, member, star_matches (starFree star member) text topic⟩
    rw [only entry keptIn hit, reserved_star] at kept
    cases kept
  · intro open_
    refine ⟨fun ⟨entry, member, _, hit⟩ => ⟨entry, member, hit⟩, fun ⟨entry, member, hit⟩ => ?_⟩
    by_cases star : entry.render = ascii "*"
    · by_contra none_
      refine open_ ⟨⟨entry, member, star⟩, fun other otherIn otherHit => ?_⟩
      by_contra named
      exact none_ ⟨other, otherIn, matching_kept free otherHit named, otherHit⟩
    · exact ⟨entry, member, matching_kept free hit star, hit⟩

theorem disabled_agree_iff {disabled : List Pattern} (starFree : ∀ entry ∈ disabled, entry.StarFree)
    (configured : config.disabledSubscribeTopics = disabled.map Pattern.render) :
    ((GlobalContext.init config).isDisabledSubscribeTopic topic = true ↔
      ∃ entry ∈ disabled, entry.Matches topic) ↔ ¬ OnlyStar disabled topic := by
  have code : (GlobalContext.init config).isDisabledSubscribeTopic topic = true ↔
      ∃ entry ∈ disabled, GlobalContext.isReservedTopic entry.render = false ∧ entry.Matches topic := by
    unfold GlobalContext.isDisabledSubscribeTopic
    rw [(init_filters config).1, configured, foldl_accepts starFree]
    simp [accepts_iff]
  rw [code]
  exact kept_iff free starFree

theorem enabled_agree_iff {enabled : List Pattern} (starFree : ∀ entry ∈ enabled, entry.StarFree)
    (configured : config.enabledSubscribeTopics = enabled.map Pattern.render) :
    ((GlobalContext.init config).isEnabledSubscribeTopic topic = true ↔
      enabled = [] ∨ ∃ entry ∈ enabled, entry.Matches topic) ↔
      ¬ (enabled ≠ [] ∧ OnlyReserved enabled) ∧
        ¬ (OnlyStar enabled topic ∧
          ∃ entry ∈ enabled, GlobalContext.isReservedTopic entry.render = false) := by
  unfold GlobalContext.isEnabledSubscribeTopic
  rw [(init_filters config).2, configured]
  by_cases dropped : ∀ entry ∈ enabled, GlobalContext.isReservedTopic entry.render = true
  · have empty := (foldl_empty starFree {}).mpr ⟨rfl, dropped⟩
    rw [if_pos empty]
    have noneKept : ¬ ∃ entry ∈ enabled, GlobalContext.isReservedTopic entry.render = false := by
      rintro ⟨entry, member, kept⟩
      rw [dropped entry member] at kept
      cases kept
    constructor
    · intro agree
      refine ⟨fun ⟨nonempty, reserved⟩ => ?_, fun ⟨_, kept⟩ => noneKept kept⟩
      obtain ⟨entry, member, hit⟩ := (agree.mp rfl).resolve_left nonempty
      exact noneKept ⟨entry, member, matching_kept free hit (reserved entry member).2⟩
    · rintro ⟨stars_, -⟩
      refine iff_of_true rfl ?_
      by_contra nothing
      obtain ⟨nonempty, unmatched⟩ := not_or.mp nothing
      refine stars_ ⟨nonempty, fun entry member => ⟨dropped entry member, fun star => ?_⟩⟩
      exact unmatched ⟨entry, member, star_matches (starFree entry member) star topic⟩
  · have filled : ¬ (enabled.map Pattern.render).foldl GlobalContext.initFilter {} = {} :=
      fun empty => dropped ((foldl_empty starFree {}).mp empty).2
    obtain ⟨kept, keptIn, keptFree⟩ : ∃ entry ∈ enabled,
        GlobalContext.isReservedTopic entry.render = false := by simpa using dropped
    have nonempty : enabled ≠ [] := List.ne_nil_of_mem keptIn
    have code := foldl_accepts starFree {} topic
    rw [if_neg filled, code]
    have mixed : ¬ (enabled ≠ [] ∧ OnlyReserved enabled) := fun ⟨_, reserved⟩ =>
      absurd ((reserved kept keptIn).1.symm.trans keptFree) nofun
    have fresh : (({} : TopicFilter).accepts topic = true) ↔ False := by simp [accepts_iff]
    rw [fresh, false_or, or_iff_right nonempty, kept_iff free starFree]
    exact ⟨fun open_ => ⟨mixed, fun both => open_ both.1⟩,
      fun conditions only => conditions.2 ⟨only, kept, keptIn, keptFree⟩⟩

end

/-- The filters agree with their lists exactly where `*` does not matter in the disabled list, and in
the enabled list neither reserved names alone are configured nor `*` next to entries that are kept. -/
theorem filters_agree_iff {config : RepeaterConfig} {disabled enabled : List Pattern} {topic : Topic}
    (disabledFree : ∀ entry ∈ disabled, entry.StarFree)
    (enabledFree : ∀ entry ∈ enabled, entry.StarFree)
    (disabledText : config.disabledSubscribeTopics = disabled.map Pattern.render)
    (enabledText : config.enabledSubscribeTopics = enabled.map Pattern.render)
    (free : GlobalContext.isReservedTopic topic = false) :
    FiltersAgree (GlobalContext.init config) disabled enabled topic ↔
      ¬ OnlyStar disabled topic ∧ ¬ (enabled ≠ [] ∧ OnlyReserved enabled) ∧
        ¬ (OnlyStar enabled topic ∧
          ∃ entry ∈ enabled, GlobalContext.isReservedTopic entry.render = false) := by
  rw [← disabled_agree_iff free disabledFree disabledText,
    ← enabled_agree_iff free enabledFree enabledText]
  exact ⟨fun ⟨disabledAgree, enabledAgree⟩ => ⟨disabledAgree, enabledAgree⟩,
    fun ⟨disabledAgree, enabledAgree⟩ => ⟨disabledAgree, enabledAgree⟩⟩

/-- `a*` disabled, `*` enabled: the filters say so on `ab`. -/
theorem filters_agree_stem :
    FiltersAgree (GlobalContext.init
      { disabledSubscribeTopics := [ascii "a*"], enabledSubscribeTopics := [ascii "*"] })
      [.starts (ascii "a")] [.all] (ascii "ab") := by
  have starts : Pattern.StarFree (.starts (ascii "a")) := by
    show (42 : UInt8) ∉ ascii "a"
    decide
  have all : Pattern.StarFree .all := trivial
  refine (filters_agree_iff (List.forall_mem_singleton.mpr starts)
    (List.forall_mem_singleton.mpr all) rfl rfl (by decide)).mpr ⟨?_, ?_, ?_⟩
  · rintro ⟨⟨entry, member, star⟩, -⟩
    obtain rfl := List.mem_singleton.mp member
    exact absurd star (by decide)
  · rintro ⟨-, reserved⟩
    exact (reserved .all List.mem_cons_self).2 rfl
  · rintro ⟨-, entry, member, kept⟩
    obtain rfl := List.mem_singleton.mp member
    cases kept

/-- A disabled `*` disables nothing. -/
theorem disabled_star_ignored :
    ¬ FiltersAgree (GlobalContext.init { disabledSubscribeTopics := [ascii "*"] })
      [.all] [] (ascii "T") := by
  intro agree
  have stopped := agree.disabled.mpr ⟨.all, List.mem_cons_self, trivial⟩
  revert stopped
  decide

end MessageRepeater.Combiner
