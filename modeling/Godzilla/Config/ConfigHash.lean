import Godzilla.Config.Canonical

/-!
# The configuration hash

`Settings.config_hash` (`config/models.py:260-263`) is the digest of the canonical text of
all fields but the secrets. A schema says which fields settings have and where sets,
sequences and nested models stand; for values of one schema the text determines the values
up to the iteration order of sets.
-/

namespace Godzilla.Config
open Misc

/-- The shape of a field: a scalar, a set or a sequence of such, or a model. -/
inductive Schema where
  | scalar
  | set (element : Schema)
  | seq (element : Schema)
  | model (fields : List (String × Schema))

namespace Schema

mutual

/-- A value has the shape of a field. -/
def Conforms : Schema → Value → Prop
  | .scalar, .scalar _ => True
  | .set element, .set items => ∀ x ∈ items, Conforms element x
  | .seq element, .seq items => ∀ x ∈ items, Conforms element x
  | .model fields, .dict items => ConformsFields fields items
  | _, _ => False

/-- Members are the fields of a model, in their order. -/
def ConformsFields : List (String × Schema) → List (String × Value) → Prop
  | [], [] => True
  | (name, schema) :: fields, (key, value) :: items =>
    (key = name ∧ Conforms schema value) ∧ ConformsFields fields items
  | _, _ => False

end

mutual

/-- The fields of every model have different names. -/
def Distinct : Schema → Prop
  | .scalar => True
  | .set element => Distinct element
  | .seq element => Distinct element
  | .model fields => (fields.map Prod.fst).Nodup ∧ DistinctFields fields

def DistinctFields : List (String × Schema) → Prop
  | [] => True
  | (_, schema) :: fields => Distinct schema ∧ DistinctFields fields

end

mutual

def decDistinct : (schema : Schema) → Decidable schema.Distinct
  | .scalar => isTrue trivial
  | .set element => decDistinct element
  | .seq element => decDistinct element
  | .model fields =>
    have := decDistinctFields fields
    inferInstanceAs (Decidable (_ ∧ _))

def decDistinctFields : (fields : List (String × Schema)) → Decidable (DistinctFields fields)
  | [] => isTrue trivial
  | (_, schema) :: fields =>
    have := decDistinct schema
    have := decDistinctFields fields
    inferInstanceAs (Decidable (_ ∧ _))

end

instance : DecidablePred Distinct := decDistinct

end Schema

/-- Members with the same keys in the same order are the same when they are the same up to
    order. -/
theorem eq_of_perm_of_keys {β : Type} {xs ys : List (String × β)} (hperm : xs.Perm ys)
    (hkeys : xs.map Prod.fst = ys.map Prod.fst) (hnodup : (xs.map Prod.fst).Nodup) : xs = ys := by
  induction xs generalizing ys with
  | nil => exact (List.nil_perm.mp hperm).symm
  | cons x xs ih =>
    cases ys with
    | nil => cases hkeys
    | cons y ys =>
      obtain ⟨hkey, hrest⟩ := List.cons.inj hkeys
      obtain ⟨hfresh, hnodup⟩ := List.nodup_cons.mp hnodup
      obtain rfl : x = y := by
        rcases List.mem_cons.mp (hperm.mem_iff.mp List.mem_cons_self) with heq | hmem
        · exact heq
        · rw [hrest] at hfresh
          exact absurd (List.mem_map_of_mem hmem) hfresh
      rw [ih hperm.cons_inv hrest hnodup]

/-- Lists whose images are the same up to order are so themselves, up to equal images. -/
theorem exists_perm_of_map_perm {α β : Type} {f : α → β} {xs ys : List α}
    (h : (xs.map f).Perm (ys.map f)) : ∃ zs : List α, zs.Perm ys ∧ xs.map f = zs.map f := by
  induction xs generalizing ys with
  | nil =>
    obtain rfl : ys = [] := List.map_eq_nil_iff.mp (List.nil_perm.mp h)
    exact ⟨[], .nil, rfl⟩
  | cons x xs ih =>
    obtain ⟨y, hy, hfy⟩ := List.mem_map.mp (h.mem_iff.mp List.mem_cons_self)
    obtain ⟨before, after, rfl⟩ := List.append_of_mem hy
    have hmiddle : (y :: (before ++ after)).Perm (before ++ y :: after) := List.perm_middle.symm
    have hrest : (xs.map f).Perm ((before ++ after).map f) := by
      have hboth := h.trans (hmiddle.map f).symm
      rw [List.map_cons, List.map_cons, hfy] at hboth
      exact hboth.cons_inv
    obtain ⟨zs, hzs, hmap⟩ := ih hrest
    exact ⟨y :: zs, (hzs.cons y).trans hmiddle, by rw [List.map_cons, List.map_cons, hmap, hfy]⟩

namespace Schema

open Value

/-- Members that agree have the same keys. -/
theorem keys_of_agreeMembers {xs ys : List (String × Value)} (h : AgreeMembers xs ys) :
    xs.map Prod.fst = ys.map Prod.fst := by
  induction xs generalizing ys with
  | nil =>
    cases ys with
    | nil => rfl
    | cons y ys => exact h.elim
  | cons x xs ih =>
    cases ys with
    | nil => exact h.elim
    | cons y ys => rw [List.map_cons, List.map_cons, h.1.1, ih h.2]

/-- The members of a model have the names of its fields. -/
theorem keys_of_conforms {fields : List (String × Schema)} {items : List (String × Value)}
    (h : ConformsFields fields items) : items.map Prod.fst = fields.map Prod.fst := by
  induction fields generalizing items with
  | nil =>
    cases items with
    | nil => rfl
    | cons item items => exact h.elim
  | cons field fields ih =>
    cases items with
    | nil => exact h.elim
    | cons item items => rw [List.map_cons, List.map_cons, h.1.1, ih h.2]

mutual

/-- Values of a schema have different keys. -/
theorem distinct_of_conforms : ∀ (schema : Schema) (value : Value), schema.Distinct →
    schema.Conforms value → value.Distinct := by
  intro schema value hdistinct h
  cases schema with
  | scalar =>
    cases value with
    | scalar a => trivial
    | _ => exact h.elim
  | set element =>
    cases value with
    | set items => exact distinctItems_of_conforms element items hdistinct h
    | _ => exact h.elim
  | seq element =>
    cases value with
    | seq items => exact distinctItems_of_conforms element items hdistinct h
    | _ => exact h.elim
  | model fields =>
    cases value with
    | dict items =>
      refine ⟨?_, distinctMembers_of_conforms fields items hdistinct.2 h⟩
      rw [keys_of_conforms h]
      exact hdistinct.1
    | _ => exact h.elim

theorem distinctItems_of_conforms : ∀ (element : Schema) (items : List Value), element.Distinct →
    (∀ x ∈ items, element.Conforms x) → DistinctItems items
  | _, [], _, _ => trivial
  | element, x :: xs, hdistinct, h =>
    ⟨distinct_of_conforms element x hdistinct (h x List.mem_cons_self),
      distinctItems_of_conforms element xs hdistinct fun y hy => h y (List.mem_cons_of_mem _ hy)⟩

theorem distinctMembers_of_conforms : ∀ (fields : List (String × Schema))
    (items : List (String × Value)), DistinctFields fields → ConformsFields fields items →
    DistinctMembers items
  | [], [], _, _ => trivial
  | [], _ :: _, _, h => h.elim
  | _ :: _, [], _, h => h.elim
  | (_, schema) :: fields, (_, x) :: items, hdistinct, h =>
    ⟨distinct_of_conforms schema x hdistinct.1 h.1.2,
      distinctMembers_of_conforms fields items hdistinct.2 h.2⟩

end

mutual

/-- Values of a schema that are written alike agree. -/
theorem agree_of_written : ∀ (schema : Schema) (v w : Value), schema.Distinct →
    schema.Conforms v → schema.Conforms w → written v = written w → Agree v w := by
  intro schema v w hdistinct hv hw h
  cases schema with
  | scalar =>
    cases v with
    | scalar a =>
      cases w with
      | scalar b => exact Tree.scalar.inj h
      | _ => exact hw.elim
    | _ => exact hv.elim
  | set element =>
    cases v with
    | set xs =>
      cases w with
      | set ys =>
        rw [written_set, written_set] at h
        have hsorted := Tree.arr.inj h
        have hperm : (xs.map written).Perm (ys.map written) := by
          refine (sortOn_perm elementKey _).symm.trans ?_
          rw [hsorted]
          exact sortOn_perm elementKey _
        obtain ⟨zs, hzs, hmap⟩ := exists_perm_of_map_perm hperm
        exact ⟨zs, hzs, agreeItems_of_written element xs zs hdistinct hv
          (fun z hz => hw z (hzs.mem_iff.mp hz)) hmap⟩
      | _ => exact hw.elim
    | _ => exact hv.elim
  | seq element =>
    cases v with
    | seq xs =>
      cases w with
      | seq ys =>
        rw [written_seq, written_seq] at h
        exact agreeItems_of_written element xs ys hdistinct hv hw (Tree.arr.inj h)
      | _ => exact hw.elim
    | _ => exact hv.elim
  | model fields =>
    cases v with
    | dict xs =>
      cases w with
      | dict ys =>
        rw [written_dict, written_dict] at h
        have hsorted := Tree.obj.inj h
        have hperm : (xs.map fun m => (m.1, written m.2)).Perm
            (ys.map fun m => (m.1, written m.2)) := by
          refine (sortOn_perm Prod.fst _).symm.trans ?_
          rw [hsorted]
          exact sortOn_perm Prod.fst _
        have hnames : ∀ items : List (String × Value),
            (items.map fun m => (m.1, written m.2)).map Prod.fst = items.map Prod.fst := by
          intro items
          rw [List.map_map]
          rfl
        have hmap := eq_of_perm_of_keys hperm
          (by rw [hnames, hnames, keys_of_conforms hv, keys_of_conforms hw])
          (by rw [hnames, keys_of_conforms hv]; exact hdistinct.1)
        exact ⟨ys, .refl ys, agreeMembers_of_written fields xs ys hdistinct.2 hv hw hmap⟩
      | _ => exact hw.elim
    | _ => exact hv.elim

theorem agreeItems_of_written : ∀ (element : Schema) (xs ys : List Value), element.Distinct →
    (∀ x ∈ xs, element.Conforms x) → (∀ y ∈ ys, element.Conforms y) →
    xs.map written = ys.map written → AgreeItems xs ys
  | _, [], [], _, _, _, _ => trivial
  | _, [], _ :: _, _, _, _, h => by cases h
  | _, _ :: _, [], _, _, _, h => by cases h
  | element, x :: xs, y :: ys, hdistinct, hxs, hys, h =>
    ⟨agree_of_written element x y hdistinct (hxs x List.mem_cons_self) (hys y List.mem_cons_self)
      (List.cons.inj h).1,
      agreeItems_of_written element xs ys hdistinct (fun z hz => hxs z (List.mem_cons_of_mem _ hz))
        (fun z hz => hys z (List.mem_cons_of_mem _ hz)) (List.cons.inj h).2⟩

theorem agreeMembers_of_written : ∀ (fields : List (String × Schema))
    (xs ys : List (String × Value)), DistinctFields fields → ConformsFields fields xs →
    ConformsFields fields ys →
    (xs.map fun m => (m.1, written m.2)) = (ys.map fun m => (m.1, written m.2)) →
    AgreeMembers xs ys
  | [], [], [], _, _, _, _ => trivial
  | [], _ :: _, _, _, hxs, _, _ => hxs.elim
  | [], [], _ :: _, _, _, hys, _ => hys.elim
  | _ :: _, [], _, _, hxs, _, _ => hxs.elim
  | _ :: _, _ :: _, [], _, _, hys, _ => hys.elim
  | (_, schema) :: fields, (_, x) :: xs, (_, y) :: ys, hdistinct, hxs, hys, h => by
    obtain ⟨hfirst, hrest⟩ := List.cons.inj h
    obtain ⟨hkey, hwritten⟩ := Prod.mk.inj hfirst
    exact ⟨⟨hkey, agree_of_written schema x y hdistinct.1 hxs.1.2 hys.1.2 hwritten⟩,
      agreeMembers_of_written fields xs ys hdistinct.2 hxs.2 hys.2 hrest⟩

end

/-- The text of values of a schema determines them up to the order of sets. -/
theorem canonicalText_iff {schema : Schema} {v w : Value} (hdistinct : schema.Distinct)
    (hv : schema.Conforms v) (hw : schema.Conforms w) :
    canonicalText v = canonicalText w ↔ Agree v w := by
  rw [canonicalText_eq_iff]
  constructor
  · exact agree_of_written schema v w hdistinct hv hw
  · exact written_eq_of_agree v w (distinct_of_conforms schema v hdistinct hv)

end Schema

/-- Fields that hold a scalar. -/
def scalars (names : List String) : List (String × Schema) := names.map fun name => (name, .scalar)

/-- `MarketSettings` (`config/models.py:38-46`). -/
def marketSettings : Schema := .model <| scalars
  ["exchange", "timezone", "raw_bar", "decision_bar", "stabilization_minutes", "final_entry_time",
    "flatten_start_time", "hard_flatten_deadline"]

/-- `UniverseSettings` (`config/models.py:67-75`). -/
def universeSettings : Schema := .model <|
  scalars ["require_fo_eligibility_for_short", "liquidity_percentile_min", "max_spread_bps",
    "max_adv_participation"] ++
  [("excluded_symbols", .set .scalar), ("excluded_sectors", .set .scalar)] ++
  scalars ["exclude_surveillance", "exclude_data_ambiguity"]

/-- `AlphaSettings` (`config/models.py:78-84`). -/
def alphaSettings : Schema := .model <| scalars
  ["cross_sectional_momentum", "momentum_breakout", "pairs_stat_arb", "vwap_mean_reversion",
    "sector_relative_value", "max_alpha_capital_fraction"]

/-- `RiskSettings` (`config/models.py:87-99`). -/
def riskSettings : Schema := .model <| scalars
  ["directional_risk_per_trade", "pair_risk_per_trade", "max_open_portfolio_risk", "max_positions",
    "max_positions_per_sector", "max_gross_notional", "max_net_directional", "daily_soft_loss",
    "daily_hard_loss", "weekly_hard_loss", "max_peak_drawdown", "leverage_enabled"]

/-- `ExecutionSettings` (`config/models.py:112-118`). -/
def executionSettings : Schema := .model <| scalars
  ["market_orders_assumed_allowed", "max_order_retries", "max_slippage_bps",
    "quote_stale_seconds", "reconcile_on_unknown", "single_active_executor"]

/-- `ComplianceProfile` (`compliance/models.py:66-90`). -/
def complianceProfile : Schema := .model <|
  scalars ["profile_id", "version", "jurisdiction", "exchange", "broker_name", "broker_route",
    "static_ip_required", "static_ip_registered"] ++
  [("api_tagging", .model (scalars ["required", "scheme", "verified"])),
    ("rate_limit", .model (scalars ["exchange_threshold_ops", "configured_max_ops", "verified"])),
    ("allowed_order_types", .set .scalar),
    ("short_eligibility", .model (scalars ["intraday_short_allowed", "require_fo_eligibility",
      "broker_permission_verified", "overnight_short_allowed"]))] ++
  scalars ["api_daily_session_reset_required", "api_daily_session_reset_verified",
    "effective_from", "effective_to"] ++
  [("source_references", .seq (.model (scalars ["authority", "reference", "url"])))] ++
  scalars ["reviewed_at", "expires_at", "paper_allowed", "live_allowed"]

/-- `RouterSettings` (`market_state/models.py:31-52`). -/
def routerSettings : Schema := .model <| scalars
  ["version", "formula_revision", "vwap_distance", "slope_15m", "slope_30m", "breadth_fraction",
    "high_realized_vol", "high_range_vol", "high_vix", "opening_gap", "stabilization_seconds",
    "shock_window_seconds", "confirmation_count", "min_duration_seconds",
    "max_confirmation_gap_seconds", "feature_max_age_seconds", "health_max_age_seconds",
    "flicker_window_seconds", "trend_multiplier", "chop_multiplier", "high_vol_multiplier"]

/-- `MomentumSettings` (`alphas/momentum_models.py:33-46`). -/
def momentumSettings : Schema := .model <|
  scalars ["version", "formula_revision"] ++
  [("weights", .model (scalars ["return_30m", "return_60m", "return_120m", "relative_sector_30m",
    "relative_market_30m", "trend_quality", "liquidity_quality"]))] ++
  scalars ["exclude_recent_5m", "enabled", "long_tail_fraction", "short_tail_fraction",
    "max_candidates_per_side", "minimum_universe_size", "max_spread_bps", "max_quote_age_seconds",
    "min_adv", "min_daily_turnover"]

/-- `BreakoutSettings` (`alphas/breakout_models.py:33-61`). -/
def breakoutSettings : Schema := .model <|
  scalars ["version", "formula_revision", "enabled"] ++
  [("weights", .model (scalars ["relative_strength", "breakout_quality", "relative_volume",
    "sector_confirmation", "slope_quality", "reward_risk_proxy", "liquidity_quality"]))] ++
  scalars ["range_source", "minimum_universe_size", "minimum_strength_percentile",
    "minimum_residual_return", "minimum_relative_volume", "full_relative_volume",
    "min_extension_atr", "full_extension_atr", "max_extension_atr", "min_close_location",
    "min_body_fraction", "full_sector_distance", "full_slope", "invalidation_buffer_atr",
    "observation_bars", "reward_distance_atr", "min_reward_risk_proxy", "full_reward_risk_proxy",
    "max_spread_bps", "max_quote_age_seconds", "min_adv", "min_daily_turnover",
    "max_bar_lag_seconds", "minimum_score"]

/-- `PairsSettings` (`alphas/pairs_models.py:15-42`). -/
def pairsSettings : Schema := .model <| scalars
  ["version", "formula_revision", "enabled", "live_enabled", "training_bars", "test_lags",
    "significance", "min_beta", "max_beta", "max_beta_drift", "min_spread_std",
    "max_spread_std_ratio", "max_spread_mean_shift", "min_half_life_bars", "max_half_life_bars",
    "entry_z", "exit_z", "stop_z", "max_hold_minutes", "max_net_gross_fraction", "max_spread_bps",
    "quote_max_age_seconds", "max_bar_lag_seconds", "min_adv", "min_turnover",
    "liquidity_metadata_max_age_seconds", "max_leg_lag_seconds"]

/-- `VwapSettings` (`alphas/vwap_models.py:16-39`). -/
def vwapSettings : Schema := .model <|
  scalars ["version", "enabled", "live_enabled", "research_regime_override"] ++
  [("features", .model (scalars ["revision", "scale_bars"]))] ++
  scalars ["min_stretch", "max_stretch", "min_impulse", "max_deceleration_ratio", "min_reversal",
    "min_body", "min_close_location", "start_minutes", "end_minutes", "max_hold_minutes",
    "convergence_fraction", "adverse_scale", "max_spread_bps", "max_quote_age_seconds",
    "max_bar_lag_seconds", "liquidity_max_age_seconds", "min_adv", "min_turnover"]

/-- `RelativeValueSettings` (`alphas/relative_value_models.py:34-55`). -/
def relativeValueSettings : Schema := .model <| scalars
  ["version", "enabled", "live_enabled", "construction", "members_per_side",
    "minimum_sector_size", "tail_fraction", "sector_residual_weight", "min_residual_gap",
    "training_returns", "min_beta", "max_beta", "max_split_beta_drift", "max_net_gross",
    "max_beta_gross", "max_inventory_age_seconds", "max_spread_bps", "max_quote_age_seconds",
    "min_adv", "min_turnover", "max_leg_lag_seconds"]

/-- `AlphaRegistry` (`ensemble/models.py:24-40`). -/
def alphaRegistry : Schema := .model
  [("version", .scalar),
    ("entries", .seq (.model (scalars ["alpha_id", "base_budget", "enabled", "score_floor",
      "score_ceiling"])))]

/-- `AlphaHealthSettings` (`ensemble/models.py:54-64`). -/
def alphaHealthSettings : Schema := .model <| scalars
  ["version", "window_trades", "minimum_trades", "minimum_multiplier", "initial_multiplier",
    "maximum_multiplier", "max_increase", "increase_interval_seconds", "max_return_drawdown",
    "health_max_age_seconds"]

/-- `AllocatorSettings` (`portfolio/models.py:15-31`). -/
def allocatorSettings : Schema := .model <| scalars
  ["version", "max_alpha", "max_gross", "max_net", "max_symbol", "max_sector", "max_open_risk",
    "max_candidate_risk", "max_groups", "max_sector_groups", "max_adv_participation",
    "max_turnover_participation", "max_input_age_seconds", "correlation_threshold",
    "correlation_penalty", "sector_duplication_penalty"]

/-- The fields of `Settings` (`config/models.py:156-185`). -/
def settingsFields : List (String × Schema) :=
  scalars ["mode", "starting_values_notice"] ++
  [("market", marketSettings), ("universe", universeSettings), ("alphas", alphaSettings),
    ("risk", riskSettings), ("execution", executionSettings),
    ("logging", .model (scalars ["level", "local_path"])),
    ("production", .model (scalars ["deployment_approved", "live_trading_enabled",
      "leader_election_configured", "release_id"])),
    ("compliance", complianceProfile),
    ("data_quality", .model (scalars ["abnormal_gap_fraction", "abnormal_volume_multiple",
      "normalization_version"])),
    ("market_state", routerSettings), ("momentum", momentumSettings),
    ("breakout", breakoutSettings), ("pairs", pairsSettings), ("vwap_reversion", vwapSettings),
    ("relative_value", relativeValueSettings), ("alpha_registry", alphaRegistry),
    ("alpha_health", alphaHealthSettings), ("allocator", allocatorSettings),
    ("secrets", .model (scalars ["broker_api_key", "broker_access_token", "database_password",
      "dashboard_secret"]))]

/-- `Settings` by its fields, each in the shape its model gives it. -/
structure SettingsTree where
  fields : List (String × Value)
  conforms : Schema.ConformsFields settingsFields fields

/-- `self.model_dump(mode="python", exclude={"secrets"})`. -/
def SettingsTree.dump (settings : SettingsTree) : List (String × Value) :=
  settings.fields.filter fun member => member.1 != "secrets"

/-- `Settings.config_hash` (`config/models.py:260-263`). -/
def SettingsTree.configHash (sha256 : String → String) (settings : SettingsTree) : String :=
  sha256 (Value.dict settings.dump).canonicalText

/-- Two settings agree field by field, besides their secrets. -/
def SettingsTree.AgreeExceptSecrets (s t : SettingsTree) : Prop :=
  List.Forall₂ (fun a b => a.1 ≠ "secrets" → Value.Agree a.2 b.2) s.fields t.fields

theorem distinct_dumpFields :
    (Schema.model (settingsFields.filter fun field => field.1 != "secrets")).Distinct := by
  decide +kernel

namespace Schema

open Value

/-- What remains of a model without one of its fields has the shape of the others. -/
theorem conformsFields_filter {fields : List (String × Schema)} {items : List (String × Value)}
    (name : String) (h : ConformsFields fields items) :
    ConformsFields (fields.filter fun field => field.1 != name)
      (items.filter fun item => item.1 != name) := by
  induction fields generalizing items with
  | nil =>
    cases items with
    | nil => trivial
    | cons item items => exact h.elim
  | cons field fields ih =>
    cases items with
    | nil => exact h.elim
    | cons item items =>
      obtain ⟨⟨hname, hvalue⟩, hrest⟩ := h
      rw [List.filter_cons, List.filter_cons, hname]
      split
      · exact ⟨⟨hname, hvalue⟩, ih hrest⟩
      · exact ih hrest

/-- The members that remain agree when each agrees with its counterpart. -/
theorem agreeMembers_filter_iff {fields : List (String × Schema)} {xs ys : List (String × Value)}
    (name : String) (hxs : ConformsFields fields xs) (hys : ConformsFields fields ys) :
    AgreeMembers (xs.filter fun x => x.1 != name) (ys.filter fun y => y.1 != name) ↔
      List.Forall₂ (fun a b => a.1 ≠ name → Agree a.2 b.2) xs ys := by
  induction fields generalizing xs ys with
  | nil =>
    cases xs with
    | cons x xs => exact hxs.elim
    | nil =>
      cases ys with
      | cons y ys => exact hys.elim
      | nil => exact ⟨fun _ => .nil, fun _ => trivial⟩
  | cons field fields ih =>
    cases xs with
    | nil => exact hxs.elim
    | cons x xs =>
      cases ys with
      | nil => exact hys.elim
      | cons y ys =>
        obtain ⟨⟨hx, -⟩, hxs⟩ := hxs
        obtain ⟨⟨hy, -⟩, hys⟩ := hys
        rw [List.forall₂_cons, ← ih hxs hys, List.filter_cons, List.filter_cons, hx, hy]
        by_cases hname : field.1 = name
        · simp [hname]
        · simp only [bne_iff_ne, ne_eq, hname, not_false_eq_true, if_true, forall_true_left]
          exact ⟨fun h => ⟨h.1.2, h.2⟩, fun h => ⟨⟨hx.trans hy.symm, h.1⟩, h.2⟩⟩

end Schema

namespace SettingsTree

open Value Schema

theorem dump_agree_iff (s t : SettingsTree) :
    Agree (.dict s.dump) (.dict t.dump) ↔ AgreeExceptSecrets s t := by
  have hs := conformsFields_filter "secrets" s.conforms
  have ht := conformsFields_filter "secrets" t.conforms
  rw [AgreeExceptSecrets, ← agreeMembers_filter_iff "secrets" s.conforms t.conforms]
  constructor
  · rintro ⟨members, hperm, hagree⟩
    have hmembers := keys_of_agreeMembers hagree
    have hsame : members = t.dump := by
      refine eq_of_perm_of_keys hperm ?_ ?_
      · rw [← hmembers, SettingsTree.dump, keys_of_conforms hs, SettingsTree.dump,
          keys_of_conforms ht]
      · rw [← hmembers, SettingsTree.dump, keys_of_conforms hs]
        exact distinct_dumpFields.1
    rw [hsame] at hagree
    exact hagree
  · intro hagree
    exact ⟨t.dump, .refl _, hagree⟩

/-- The hash of two settings is the same exactly when they agree in every field besides the
    secrets, up to the iteration order of sets. -/
theorem configHash_eq_iff {sha256 : String → String} (hsha256 : Function.Injective sha256)
    (s t : SettingsTree) : s.configHash sha256 = t.configHash sha256 ↔ AgreeExceptSecrets s t := by
  rw [configHash, configHash, hsha256.eq_iff, ← dump_agree_iff]
  exact canonicalText_iff distinct_dumpFields (conformsFields_filter "secrets" s.conforms)
    (conformsFields_filter "secrets" t.conforms)

end SettingsTree

/-- The canonical text of a value is the same however its sets iterate and its dicts were
    filled, and keeps its lists and tuples in their order; the hash of two settings is the same
    exactly when they agree in every field besides the secrets. -/
theorem config_hash_canonical {sha256 : String → String} (hsha256 : Function.Injective sha256) :
    (∀ v w : Value, v.Distinct → v.Agree w → v.canonicalText = w.canonicalText) ∧
    (∀ items : List Value,
      Value.canonicalValue (.seq items) = .arr (items.map Value.canonicalValue) ∧
      (Value.seq items).canonicalText.toList =
        '[' :: ([','].intercalate (items.map fun x => x.canonicalText.toList) ++ [']'])) ∧
    ∀ s t : SettingsTree,
      s.configHash sha256 = t.configHash sha256 ↔ SettingsTree.AgreeExceptSecrets s t := by
  refine ⟨?_, ?_, SettingsTree.configHash_eq_iff hsha256⟩
  · intro v w hdistinct hagree
    exact Value.canonicalText_eq_iff.mpr (Value.written_eq_of_agree v w hdistinct hagree)
  · intro items
    refine ⟨?_, Value.canonicalText_seq items⟩
    rw [Value.canonicalValue, Value.canonicalItems_eq_map]

end Godzilla.Config

namespace Godzilla.Config.Sample
open Misc Schema Value

mutual

/-- A value of a shape: a text for its scalars, and members for its sets. -/
def filled : Schema → String → List String → Value
  | .scalar, text, _ => .scalar (.str text)
  | .set element, _, members => .set (members.map fun member => filled element member [])
  | .seq element, text, members => .seq [filled element text members]
  | .model fields, text, members => .dict (filledFields fields text members)

def filledFields : List (String × Schema) → String → List String → List (String × Value)
  | [], _, _ => []
  | (name, schema) :: fields, text, members =>
    (name, filled schema text members) :: filledFields fields text members

end

mutual

theorem conforms_filled : ∀ (schema : Schema) (text : String) (members : List String),
    schema.Conforms (filled schema text members)
  | .scalar, _, _ => trivial
  | .set element, _, members => by
    intro x hx
    obtain ⟨member, -, rfl⟩ := List.mem_map.mp hx
    exact conforms_filled element member []
  | .seq element, text, members => by
    intro x hx
    obtain rfl := List.mem_singleton.mp hx
    exact conforms_filled element text members
  | .model fields, text, members => conforms_filledFields fields text members

theorem conforms_filledFields : ∀ (fields : List (String × Schema)) (text : String)
    (members : List String), ConformsFields fields (filledFields fields text members)
  | [], _, _ => trivial
  | (_, schema) :: fields, text, members =>
    ⟨⟨rfl, conforms_filled schema text members⟩, conforms_filledFields fields text members⟩

end

mutual

/-- The members of the sets may stand in another order. -/
theorem agree_filled : ∀ (schema : Schema) (text : String) {members members' : List String},
    members.Perm members' → Agree (filled schema text members) (filled schema text members')
  | .scalar, _, _, _, _ => rfl
  | .set element, _, members, _, hperm => by
    have hsame : ∀ items : List String,
        AgreeItems (items.map fun member => filled element member [])
          (items.map fun member => filled element member []) := by
      intro items
      induction items with
      | nil => trivial
      | cons member items ih => exact ⟨agree_filled element member (.refl []), ih⟩
    exact ⟨members.map fun member => filled element member [], hperm.map _, hsame members⟩
  | .seq element, text, _, _, hperm => ⟨agree_filled element text hperm, trivial⟩
  | .model fields, text, _, members', hperm =>
    ⟨filledFields fields text members', .refl _, agree_filledFields fields text hperm⟩

theorem agree_filledFields : ∀ (fields : List (String × Schema)) (text : String)
    {members members' : List String}, members.Perm members' →
    AgreeMembers (filledFields fields text members) (filledFields fields text members')
  | [], _, _, _, _ => trivial
  | (_, schema) :: fields, text, _, _, hperm =>
    ⟨⟨rfl, agree_filled schema text hperm⟩, agree_filledFields fields text hperm⟩

end

/-- The text of a field: the secrets have their own. -/
def textOf (text secret name : String) : String := if name = "secrets" then secret else text

theorem conforms_fields (text secret : String) (members : List String)
    (fields : List (String × Schema)) :
    ConformsFields fields (fields.map fun field =>
      (field.1, filled field.2 (textOf text secret field.1) members)) := by
  induction fields with
  | nil => trivial
  | cons field fields ih => exact ⟨⟨rfl, conforms_filled _ _ _⟩, ih⟩

/-- Settings with one text in all scalars but the secrets. -/
def tree (text secret : String) (members : List String) : SettingsTree where
  fields := settingsFields.map fun field =>
    (field.1, filled field.2 (textOf text secret field.1) members)
  conforms := conforms_fields text secret members settingsFields

/-- Sets that iterate otherwise and other secrets leave the hash, and another mode changes it. -/
theorem config_hash_canonical_order :
    (tree "PAPER" "key" ["INFY", "TCS"]).configHash id =
      (tree "PAPER" "token" ["TCS", "INFY"]).configHash id ∧
    (tree "PAPER" "key" ["INFY"]).configHash id ≠ (tree "LIVE" "key" ["INFY"]).configHash id ∧
    (Value.set [.scalar (.str "a"), .seq [.scalar .null]]).canonicalText =
      (Value.set [.seq [.scalar .null], .scalar (.str "a")]).canonicalText := by
  obtain ⟨horder, -, hhash⟩ := config_hash_canonical Function.injective_id
  refine ⟨(hhash _ _).mpr ?_, ?_, ?_⟩
  · refine List.forall₂_map_left_iff.mpr (List.forall₂_map_right_iff.mpr ?_)
    refine List.forall₂_same.mpr fun field _ hname => ?_
    have htext : textOf "PAPER" "key" field.1 = textOf "PAPER" "token" field.1 := by
      rw [textOf, textOf, if_neg hname, if_neg hname]
    show Agree (filled field.2 (textOf "PAPER" "key" field.1) _) (filled field.2 _ _)
    rw [htext]
    exact agree_filled field.2 _ (.swap _ _ _)
  · intro heq
    obtain ⟨hmode, -⟩ := List.forall₂_cons.mp ((hhash _ _).mp heq)
    have hsame : Scalar.str "PAPER" = Scalar.str "LIVE" := hmode (by decide)
    exact absurd (Scalar.str.inj hsame) (by decide)
  · refine horder _ _ ⟨trivial, ⟨trivial, trivial⟩, trivial⟩ ?_
    exact ⟨[.scalar (.str "a"), .seq [.scalar .null]], .swap _ _ _, rfl, ⟨rfl, trivial⟩, trivial⟩

end Godzilla.Config.Sample
