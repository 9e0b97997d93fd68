import StopBot.Lib.Sql
import StopBot.Observer.Writers

/-!
# The fresh-snapshot gate of automatic pauses

`core/meta_api/freshness.py`: the money worker pauses an ad only on a
confirmed decision of a scan that is at most 60 seconds old. The gate reads
what the observer's upsert persisted, so the two are put together here: runs
of scans of one ad, and the decision the gate then reports.
-/

namespace StopBot.Observer

open Lib

-- ------------------------------------------------------------
-- The tables the gate joins
-- ------------------------------------------------------------

structure AdMetric where
  adId : Uuid
  cycleTs : Int
  scanId : Option Int
  currency : Option String
  deriving DecidableEq, Repr

structure FbAd where
  id : Uuid
  fbAdId : String
  adsetId : Uuid
  deriving DecidableEq, Repr

structure FbAdset where
  id : Uuid
  campaignId : Uuid
  deriving DecidableEq, Repr

structure FbCampaign where
  id : Uuid
  adAccountId : String
  offerId : Option Uuid
  deriving DecidableEq, Repr

structure ScanRun where
  scanId : Int
  adAccountId : String
  startedAt : Int
  finishedAt : Option Int
  outcome : Option String
  deriving DecidableEq, Repr

structure Offer where
  id : Uuid
  isActive : Bool
  deriving DecidableEq, Repr

structure OfferRule where
  offerId : Uuid
  updatedAt : Int
  deriving DecidableEq, Repr

structure Db where
  adMetrics : List AdMetric
  fbAds : List FbAd
  fbAdsets : List FbAdset
  fbCampaigns : List FbCampaign
  scanRuns : List ScanRun
  adAlertState : List (Uuid × AlertRow)
  offers : List Offer
  offerRules : List OfferRule
  /-- `is_scanning_enabled` of the row whose `singleton_key` is `'default'`. -/
  observerConfig : Option Bool
  deriving DecidableEq, Repr

/-- The row of the common table expression `latest_metric`. -/
structure LatestMetric where
  cycleTs : Int
  scanId : Option Int
  currency : Option String
  adId : Uuid
  adAccountId : String
  offerId : Option Uuid
  deriving DecidableEq, Repr

def Db.joinMetric (db : Db) (fbAdId : String) (m : AdMetric) : Option LatestMetric := do
  let a ← db.fbAds.find? fun a => a.id == m.adId && a.fbAdId == fbAdId
  let adset ← db.fbAdsets.find? (·.id == a.adsetId)
  let campaign ← db.fbCampaigns.find? (·.id == adset.campaignId)
  return { cycleTs := m.cycleTs, scanId := m.scanId, currency := m.currency, adId := a.id
           adAccountId := campaign.adAccountId, offerId := campaign.offerId }

def Db.latestMetric (db : Db) (fbAdId : String) : Option LatestMetric :=
  Sql.first (fun a b => b.cycleTs < a.cycleTs) (db.adMetrics.filterMap (db.joinMetric fbAdId))

def Db.latestScan (db : Db) (adAccountId : String) : Option ScanRun :=
  Sql.first
    (fun a b => b.startedAt < a.startedAt || (a.startedAt == b.startedAt && b.scanId < a.scanId))
    (db.scanRuns.filter (·.adAccountId == adAccountId))

def Db.alertRow (db : Db) (adId : Uuid) : Option AlertRow :=
  db.adAlertState.lookup adId

def Db.offer (db : Db) (offerId : Option Uuid) : Option Offer :=
  offerId.bind fun id => db.offers.find? (·.id == id)

def Db.offerRule (db : Db) (offerId : Option Uuid) : Option OfferRule :=
  offerId.bind fun id => db.offerRules.find? (·.offerId == id)

-- ------------------------------------------------------------
-- The gate
-- ------------------------------------------------------------

structure MetaSnapshotFreshness where
  fresh : Bool
  latestCycleAt : Option Int
  scanId : Option Int
  decisionConfirmed : Bool
  deriving DecidableEq, Repr

def seconds (n : Int) : Int := n * 1000000

def maxAutoPauseSnapshotAgeSeconds : Int := 60

def snapshotIsFresh (latestCycleAt : Option Int) (decisionConfirmed : Bool) (now : Int) : Bool :=
  decisionConfirmed &&
    match latestCycleAt with
    | none => false
    | some at_ => now - seconds maxAutoPauseSnapshotAgeSeconds ≤ at_ && at_ ≤ now

/-- The column `decision_confirmed`: each joined table may have no row, and a
NULL anywhere makes the conjunction not true. -/
def Db.decisionConfirmed (db : Db) (metric : LatestMetric) (checkedAt : Int) : Bool :=
  let scan := db.latestScan metric.adAccountId
  let state := db.alertRow metric.adId
  Sql.holds <| Sql.all [
    Sql.eq metric.currency (some "USD"),
    Sql.eq (scan.map (·.scanId)) metric.scanId,
    Sql.eq (scan.bind (·.outcome)) (some "success"),
    Sql.isNotNull (scan.bind (·.finishedAt)),
    Sql.le (scan.bind (·.finishedAt)) (some checkedAt),
    Sql.eq (state.map (·.alertState)) (some .stopSent),
    Sql.eq (state.bind (·.currentStage)) (some .stop),
    Sql.eq (state.bind (·.lastScanId)) metric.scanId,
    state.map fun row => 0 < row.stopRuleCodes.length,
    (db.offer metric.offerId).map (·.isActive),
    Sql.le ((db.offerRule metric.offerId).map (·.updatedAt)) (some metric.cycleTs),
    db.observerConfig]

def loadMetaSnapshotFreshness (db : Db) (fbAdId : String) (checkedAt : Int) :
    MetaSnapshotFreshness :=
  let metric := db.latestMetric fbAdId
  let latestCycle := metric.map (·.cycleTs)
  let decisionConfirmed := (metric.map (db.decisionConfirmed · checkedAt)).getD false
  { fresh := snapshotIsFresh latestCycle decisionConfirmed checkedAt
    latestCycleAt := latestCycle
    scanId := metric.bind (·.scanId)
    decisionConfirmed := decisionConfirmed }

-- ------------------------------------------------------------
-- Runs of scans
-- ------------------------------------------------------------

/-- One scan of the ad: `decide` on the stored row, then the upsert, at `NOW()`. -/
def scanAd (row : Option AlertRow) (observed : Scan × Int) : Option AlertRow :=
  applyFsmTransition observed.2 (scanTransition (row.map AlertRow.snapshot) observed.1)
    observed.1.scanId true row

/-- The stored alert state, `normal` for an ad without a row. -/
def storedState (row : Option AlertRow) : AlertState :=
  (row.map (·.alertState)).getD .normal

/-- Everything the gate reads besides the alert row is in order for `scan`:
its metric and its scan run are the latest, the scan finished successfully in
time, in USD, for an active offer whose rules are no newer, with scanning on. -/
structure Backs (db : Db) (fbAdId : String) (scan : Scan) (row : AlertRow) (checkedAt : Int) :
    Prop where
  scanned : ∃ metric run rule offer,
    db.latestMetric fbAdId = some metric ∧
    metric.scanId = scan.scanId ∧ metric.cycleTs = scan.cycleTs ∧
    metric.currency = some "USD" ∧
    db.latestScan metric.adAccountId = some run ∧
    scan.scanId = some run.scanId ∧ run.outcome = some "success" ∧
    (∃ finishedAt, run.finishedAt = some finishedAt ∧ finishedAt ≤ checkedAt) ∧
    db.alertRow metric.adId = some row ∧
    db.offer metric.offerId = some offer ∧ offer.isActive = true ∧
    db.offerRule metric.offerId = some rule ∧ rule.updatedAt ≤ scan.cycleTs
  enabled : db.observerConfig = some true
  recent : checkedAt - seconds maxAutoPauseSnapshotAgeSeconds ≤ scan.cycleTs ∧
    scan.cycleTs ≤ checkedAt

/-- With everything else in order, the gate is decided by the alert row. -/
theorem Backs.decisionConfirmed_iff {db : Db} {fbAdId : String} {scan : Scan} {row : AlertRow}
    {checkedAt : Int} (h : Backs db fbAdId scan row checkedAt) :
    (loadMetaSnapshotFreshness db fbAdId checkedAt).decisionConfirmed = true ↔
      row.alertState = .stopSent ∧ row.currentStage = some .stop ∧
        row.lastScanId = scan.scanId ∧ row.stopRuleCodes ≠ [] := by
  obtain ⟨metric, run, rule, offer, hmetric, hscanId, hcycle, husd, hrun, hrunId, houtcome,
    ⟨finishedAt, hfinished, hbefore⟩, hrow, hoffer, hactive, hrule, hupdated⟩ := h.scanned
  have hmid : metric.scanId = some run.scanId := hscanId.trans hrunId
  have hcodes : (some (Decidable.decide (0 < row.stopRuleCodes.length)) = some true) ↔
      row.stopRuleCodes ≠ [] := by
    simp [List.length_pos_iff]
  simp only [loadMetaSnapshotFreshness, hmetric, Option.map_some, Option.getD_some,
    Db.decisionConfirmed, Sql.holds_eq_true_iff, Sql.all_eq_true_iff, List.forall_mem_cons,
    husd, hrun, hrow, hoffer, hrule, houtcome, hfinished, hmid, hrunId, h.enabled, hactive,
    Option.bind_some, Sql.eq_eq_true_iff, Sql.le_eq_true_iff, Sql.isNotNull_eq_true_iff, hcodes]
  simp [hbefore, hcycle, hupdated]

/-- A STOP scan that leaves the row in `stop_sent` persists its evidence
unless the row was in `stop_sent` already. -/
theorem scanAd_stop {row : Option AlertRow} {observed : Scan × Int} {after : AlertRow}
    (hstop : observed.1.stopRuleCodes ≠ []) (hafter : scanAd row observed = some after)
    (hsent : after.alertState = .stopSent) :
    (storedState row = .stopSent ∧ after.stopRuleCodes = []) ∨
    (storedState row ≠ .stopSent ∧ after.currentStage = some .stop ∧
      after.lastScanId = observed.1.scanId ∧ after.stopRuleCodes = observed.1.stopRuleCodes) := by
  obtain ⟨scan, now⟩ := observed
  -- the persisted columns are those of the decision on the stored row
  have hpersist : after.currentStage = (scanTransition (row.map AlertRow.snapshot) scan).newStage ∧
      after.lastScanId = scan.scanId ∧
      after.stopRuleCodes = stopsFrom (scanTransition (row.map AlertRow.snapshot) scan) ∧
      (storedState row).terminal = false := by
    cases row with
    | none =>
      cases hafter
      exact ⟨rfl, rfl, rfl, rfl⟩
    | some r =>
      cases ht : r.alertState.terminal with
      | true =>
        have hsame : after = r := by
          simpa [scanAd, applyFsmTransition, doUpdate, ht] using hafter.symm
        rw [← hsame, hsent] at ht
        cases ht
      | false =>
        have hnew := Option.some.inj hafter
        simp only [doUpdate, ht, Bool.false_eq_true, if_false] at hnew
        subst hnew
        exact ⟨rfl, rfl, rfl, ht⟩
  obtain ⟨hstage, hscan, hcodes, hopen⟩ := hpersist
  have hcur : (fsmInput (row.map AlertRow.snapshot) scan).currentState = storedState row := by
    cases row <;> rfl
  have hdecide : decide scan.uuid4 (fsmInput (row.map AlertRow.snapshot) scan) =
      decideStop scan.uuid4 (fsmInput (row.map AlertRow.snapshot) scan) :=
    if_pos ((hasStops_eq_true_iff _).mpr hstop)
  rw [scanTransition_newStage, hdecide] at hstage
  rw [stopsFrom_scanTransition, hdecide] at hcodes
  rcases decideStop_cases scan.uuid4 (fsmInput (row.map AlertRow.snapshot) scan) with
    ⟨hrepeat, -, halert⟩ | ⟨hfirst, -, -, hnewStage, halert, hnewCodes⟩ | ⟨hterminal, -⟩
  · left
    refine ⟨hcur ▸ hrepeat, ?_⟩
    rw [hcodes, stopsFrom, halert]
    rfl
  · right
    refine ⟨hcur ▸ hfirst, hstage.trans hnewStage, hscan, ?_⟩
    rw [hcodes, stopsFrom, halert, if_pos rfl, hnewCodes]
    rfl
  · rw [hcur, hopen] at hterminal
    cases hterminal

/-- After any sequence of scans of the ad, a last scan that found a STOP rule
and left the row in `stop_sent` is confirmed by the gate exactly when it was
not a repetition: the row stored before it was not in `stop_sent`. -/
theorem stop_evidence_iff (row : Option AlertRow) (scans : List (Scan × Int))
    (last : Scan × Int) (after : AlertRow) (db : Db) (fbAdId : String) (checkedAt : Int)
    (hstop : last.1.stopRuleCodes ≠ [])
    (hafter : run scanAd row (scans ++ [last]) = some after)
    (hsent : after.alertState = .stopSent)
    (hbacks : Backs db fbAdId last.1 after checkedAt) :
    (after.currentStage = some .stop ∧ after.stopRuleCodes ≠ [] ∧
        (loadMetaSnapshotFreshness db fbAdId checkedAt).decisionConfirmed = true) ↔
      storedState (run scanAd row scans) ≠ .stopSent := by
  rw [run_append, run_cons, run_nil] at hafter
  rw [hbacks.decisionConfirmed_iff]
  rcases scanAd_stop hstop hafter hsent with ⟨hrepeat, hcodes⟩ | ⟨hfirst, hstage, hscan, hcodes⟩
  · simp [hrepeat, hcodes]
  · simp [hfirst, hstage, hscan, hcodes, hsent, hstop]

-- A concrete ad: its scans one minute apart, each with one STOP rule hit.

def stopScan (scanId : Int) : Scan × Int :=
  ({ warningRuleCodes := [], stopRuleCodes := ["cpa_stop"], scanId := some scanId
     cycleTs := minutes scanId, uuid4 := 7 }, minutes scanId + seconds 5)

def stopDb (scanId : Int) (row : AlertRow) : Db :=
  { adMetrics := [{ adId := 1, cycleTs := minutes scanId, scanId := some scanId,
                    currency := some "USD" }]
    fbAds := [{ id := 1, fbAdId := "238", adsetId := 2 }]
    fbAdsets := [{ id := 2, campaignId := 3 }]
    fbCampaigns := [{ id := 3, adAccountId := "900", offerId := some 4 }]
    scanRuns := [{ scanId := scanId, adAccountId := "900", startedAt := minutes scanId
                   finishedAt := some (minutes scanId + seconds 8), outcome := some "success" }]
    adAlertState := [(1, row)]
    offers := [{ id := 4, isActive := true }]
    offerRules := [{ offerId := 4, updatedAt := 0 }]
    observerConfig := some true }

theorem stopDb_backs {scanId : Int} (h : 0 ≤ scanId) (row : AlertRow) :
    Backs (stopDb scanId row) "238" (stopScan scanId).1 row (minutes scanId + seconds 20) := by
  refine ⟨⟨_, _, _, _, rfl, rfl, rfl, rfl, rfl, rfl, rfl, ⟨_, rfl, ?_⟩, rfl, rfl, rfl, rfl, ?_⟩,
    rfl, ?_⟩
  · simp [seconds]
  · show (0 : Int) ≤ scanId * 60000000
    omega
  · simp only [stopScan, seconds, maxAutoPauseSnapshotAgeSeconds]
    omega

/-- The row after the first STOP scan of the incident. -/
def firstStopRow : AlertRow :=
  { alertState := .stopSent, currentStage := some .stop, openStateToken := some 7
    stopRuleCodes := ["cpa_stop"], lastScanId := some 1
    lastTransitionAt := minutes 1 + seconds 5 }

/-- The row after the second one: the same incident with no rule code left. -/
def repeatedStopRow : AlertRow :=
  { firstStopRow with stopRuleCodes := [], lastScanId := some 2 }

theorem stop_evidence_first_scan :
    run scanAd none ([] ++ [stopScan 1]) = some firstStopRow ∧
    ((firstStopRow.currentStage = some .stop ∧ firstStopRow.stopRuleCodes ≠ [] ∧
        (loadMetaSnapshotFreshness (stopDb 1 firstStopRow) "238"
          (minutes 1 + seconds 20)).decisionConfirmed = true) ↔
      storedState (run scanAd none []) ≠ .stopSent) :=
  ⟨rfl, stop_evidence_iff none [] (stopScan 1) firstStopRow (stopDb 1 firstStopRow) "238" _
    (by simp [stopScan]) rfl rfl (stopDb_backs (by decide) firstStopRow)⟩

theorem repeated_stop_not_confirmed :
    run scanAd none [stopScan 1, stopScan 2] = some repeatedStopRow ∧
    (stopScan 2).1.stopRuleCodes ≠ [] ∧ repeatedStopRow.alertState = .stopSent ∧
    repeatedStopRow.lastScanId = (stopScan 2).1.scanId ∧
    Backs (stopDb 2 repeatedStopRow) "238" (stopScan 2).1 repeatedStopRow
      (minutes 2 + seconds 20) ∧
    repeatedStopRow.stopRuleCodes = [] ∧
    (loadMetaSnapshotFreshness (stopDb 2 repeatedStopRow) "238"
      (minutes 2 + seconds 20)).decisionConfirmed = false := by
  have hbacks := stopDb_backs (show (0 : Int) ≤ 2 by decide) repeatedStopRow
  refine ⟨rfl, by simp [stopScan], rfl, rfl, hbacks, rfl, ?_⟩
  rw [Bool.eq_false_iff, ne_eq, hbacks.decisionConfirmed_iff]
  simp [repeatedStopRow]

end StopBot.Observer
