import FloodScheme.Level

/-! The levels of the save wizard. All but the first save name the scheme they belong to by its
reference number. -/
namespace FloodScheme.Catalogue
open Number

def projectTypes : List String := ["DEF", "REP", "REF", "HCR", "STR", "STU", "ELO"]

def interventionProjectTypes : List String := ["DEF", "REP", "REF"]

def interventionTypes : List String := ["NFM", "PFR", "SUDS", "OTHER"]

def riskTypes : List String :=
  ["fluvial_flooding", "tidal_flooding", "groundwater_flooding", "surface_water_flooding",
    "sea_flooding", "reservoir_flooding", "coastal_erosion"]

def floodRiskLevels : List String := ["high", "medium", "low", "very_low"]

def coastalErosionRiskLevels : List String := ["medium_term", "longer_term"]

def urgencyReasons : List String :=
  ["not_urgent", "statutory_need", "legal_need", "health_and_safety", "emergency_works",
    "time_limited"]

def confidenceLevels : List String :=
  ["high", "medium_high", "medium_low", "low", "not_applicable"]

def namePattern : String := "^[A-Za-z0-9 _-]+$"

def referencePattern : String := "^[A-Z]\x7b2\x7dC501E/[0-9]\x7b3\x7dA/[0-9]\x7b3\x7dA$"

def longestText : Nat := 700

def month (name : String) (condition : Option Condition := none) : Rule :=
  { name, kind := .integer, code := "MONTH", minimum := some (.int 1), maximum := some (.int 12),
    condition, forbiddenOtherwise := condition.isSome }

def year (name : String) (code : String := "YEAR") (condition : Option Condition := none) :
    Rule :=
  { name, kind := .integer, code, minimum := some (.int 2000), maximum := some (.int 2100),
    condition, forbiddenOtherwise := condition.isSome }

def count (name : String) : Rule :=
  { name, kind := .integer, code := "PROPERTY_VALUE", required := false,
    minimum := some (.int 0) }

def choice (name code : String) (choices : List String) : Rule :=
  { name, kind := .text, code, choices := some choices }

def flag (name code : String) : Rule := { name, kind := .boolean, code }

def percentage (name code : String) : Rule :=
  { name, kind := .decimal, code, required := false,
    minimum := some (.decimal (.finite false 0 0)),
    maximum := some (.decimal (.finite false 100 0)), decimalPlaces := some 2 }

def referenceNumber : Rule :=
  { name := "referenceNumber", kind := .text, code := "REFERENCE_NUMBER",
    pattern := some referencePattern }

def name : Rule :=
  { name := "name", kind := .text, code := "NAME", pattern := some namePattern,
    maxLength := some 255 }

def areaId : Rule :=
  { name := "areaId", kind := .integer, code := "AREA_ID", minimum := some (.int 1) }

def projectType : Rule := choice "projectType" "PROJECT_TYPE" projectTypes

def isIntervention : Condition := ⟨"projectType", interventionProjectTypes.map .text, false⟩

def projectInterventionTypes : Rule :=
  { name := "projectInterventionTypes", kind := .textList, code := "PROJECT_INTERVENTION_TYPE",
    choices := some interventionTypes, minItems := some 1, condition := some isIntervention,
    forbiddenOtherwise := true }

def mainInterventionType : Rule :=
  { choice "mainInterventionType" "PROJECT_MAIN_INTERVENTION_TYPE" interventionTypes with
    condition := some isIntervention, forbiddenOtherwise := true }

def financialStartYear : Rule := year "financialStartYear" "FINANCIAL_START_YEAR"

def financialEndYear : Rule := year "financialEndYear" "FINANCIAL_END_YEAR"

def couldStartEarly : Rule := flag "couldStartEarly" "COULD_START_EARLY"

def startsEarly : Condition := ⟨"couldStartEarly", [.bool true], false⟩

def urgencyReason : Rule := choice "urgencyReason" "URGENCY_REASON" urgencyReasons

def urgencyDetails : Rule :=
  { name := "urgencyDetails", kind := .text, code := "URGENCY_DETAILS",
    maxLength := some longestText,
    condition := some ⟨"urgencyReason", [.text "not_urgent"], true⟩, forbiddenOtherwise := true }

def risks : Rule :=
  { name := "risks", kind := .textList, code := "RISKS", choices := some riskTypes,
    minItems := some 1 }

def noPropertiesAtFloodRisk : Rule := flag "noPropertiesAtRisk" "NO_PROPERTIES_AT_FLOOD_RISK"

def noPropertiesAtCoastalErosionRisk : Rule :=
  flag "noPropertiesAtCoastalErosionRisk" "NO_PROPERTIES_AT_COASTAL_EROSION_RISK"

def floodPropertyCounts : List Rule :=
  ["maintainingExistingAssets", "reducingFloodRisk50Plus", "reducingFloodRiskLess50",
    "increasingFloodResilience"].map count

def coastalPropertyCounts : List Rule :=
  ["propertiesBenefitMaintainingAssetsCoastal",
    "propertiesBenefitInvestmentCoastalErosion"].map count

/-- A habitat: a flag that opens it and the quantity gained, each with its level. -/
structure Habitat where
  gate : String
  gateLevel : String
  quantity : String
  quantityLevel : String

def habitats : List Habitat := [
  ⟨"intertidalHabitat", "INTERTIDAL_HABITAT",
    "hectaresOfIntertidalHabitatCreatedOrEnhanced",
    "HECTARES_OF_INTERTIDAL_HABITAT_CREATED_OR_ENHANCED"⟩,
  ⟨"woodland", "WOODLAND",
    "hectaresOfWoodlandHabitatCreatedOrEnhanced",
    "HECTARES_OF_WOODLAND_HABITAT_CREATED_OR_ENHANCED"⟩,
  ⟨"wetWoodland", "WET_WOODLAND",
    "hectaresOfWetWoodlandHabitatCreatedOrEnhanced",
    "HECTARES_OF_WET_WOODLAND_HABITAT_CREATED_OR_ENHANCED"⟩,
  ⟨"wetlandOrWetGrassland", "WETLAND_OR_WET_GRASSLAND",
    "hectaresOfWetlandOrWetGrasslandCreatedOrEnhanced",
    "HECTARES_OF_WETLAND_OR_WET_GRASSLAND_CREATED_OR_ENHANCED"⟩,
  ⟨"grassland", "GRASSLAND",
    "hectaresOfGrasslandHabitatCreatedOrEnhanced",
    "HECTARES_OF_GRASSLAND_HABITAT_CREATED_OR_ENHANCED"⟩,
  ⟨"heathland", "HEATHLAND",
    "hectaresOfHeathlandCreatedOrEnhanced",
    "HECTARES_OF_HEATHLAND_CREATED_OR_ENHANCED"⟩,
  ⟨"pondsLakes", "PONDS_LAKES",
    "hectaresOfPondOrLakeHabitatCreatedOrEnhanced",
    "HECTARES_OF_POND_OR_LAKE_HABITAT_CREATED_OR_ENHANCED"⟩,
  ⟨"arableLand", "ARABLE_LAND",
    "hectaresOfArableLandLakeHabitatCreatedOrEnhanced",
    "HECTARES_OF_ARABLE_LAND_LAKE_HABITAT_CREATED_OR_ENHANCED"⟩,
  ⟨"comprehensiveRestoration", "COMPREHENSIVE_RESTORATION",
    "kilometresOfWatercourseEnhancedOrCreatedComprehensive",
    "KILOMETRES_OF_WATERCOURSE_ENHANCED_OR_CREATED_COMPREHENSIVE"⟩,
  ⟨"partialRestoration", "PARTIAL_RESTORATION",
    "kilometresOfWatercourseEnhancedOrCreatedPartial",
    "KILOMETRES_OF_WATERCOURSE_ENHANCED_OR_CREATED_PARTIAL"⟩,
  ⟨"createHabitatWatercourse", "CREATE_HABITAT_WATERCOURSE",
    "kilometresOfWatercourseEnhancedOrCreatedSingle",
    "KILOMETRES_OF_WATERCOURSE_ENHANCED_OR_CREATED_SINGLE"⟩]

def Habitat.gateRule (h : Habitat) : Rule := flag h.gate "ENVIRONMENTAL_BENEFITS_GATE"

def Habitat.quantityRule (h : Habitat) : Rule :=
  { name := h.quantity, kind := .decimal, code := "ENVIRONMENTAL_BENEFITS_QUANTITY",
    minimum := some (.decimal (.finite false 1 (-2))), decimalPlaces := some 2,
    condition := some ⟨h.gate, [.bool true], false⟩ }

/-- A level of a scheme that exists. -/
def saved (name : String) (rules : List Rule) : Level := ⟨name, referenceNumber :: rules⟩

def Habitat.levels (h : Habitat) : List Level :=
  [saved h.gateLevel [h.gateRule], saved h.quantityLevel [h.gateRule, h.quantityRule]]

def startOutlineBusinessCase : List Rule :=
  [month "startOutlineBusinessCaseMonth", year "startOutlineBusinessCaseYear"]

def completeOutlineBusinessCase : List Rule :=
  [month "completeOutlineBusinessCaseMonth", year "completeOutlineBusinessCaseYear"]

def awardContract : List Rule := [month "awardContractMonth", year "awardContractYear"]

def startConstruction : List Rule :=
  [month "startConstructionMonth", year "startConstructionYear"]

def readyForService : List Rule := [month "readyForServiceMonth", year "readyForServiceYear"]

def earliestWithGia : List Rule :=
  [month "earliestWithGiaMonth" startsEarly,
    year "earliestWithGiaYear" "YEAR" startsEarly]

def initialSave : Level :=
  ⟨"INITIAL_SAVE", [name, areaId, projectType, projectInterventionTypes, mainInterventionType,
    financialStartYear, financialEndYear]⟩

def levels : List Level := [
  initialSave,
  saved "PROJECT_NAME" [name],
  saved "PROJECT_AREA" [areaId],
  saved "PROJECT_TYPE" [projectType, projectInterventionTypes, mainInterventionType],
  saved "FINANCIAL_START_YEAR" [financialStartYear],
  saved "FINANCIAL_END_YEAR" [financialEndYear],
  saved "START_OUTLINE_BUSINESS_CASE" startOutlineBusinessCase,
  saved "COMPLETE_OUTLINE_BUSINESS_CASE"
    (completeOutlineBusinessCase ++ startOutlineBusinessCase),
  saved "AWARD_CONTRACT" (awardContract ++ completeOutlineBusinessCase),
  saved "START_CONSTRUCTION" (startConstruction ++ awardContract),
  saved "READY_FOR_SERVICE" (readyForService ++ startConstruction),
  saved "COULD_START_EARLY" [couldStartEarly],
  saved "EARLIEST_WITH_GIA" (couldStartEarly :: earliestWithGia),
  saved "RISK"
    ([risks, noPropertiesAtFloodRisk.optional] ++ floodPropertyCounts ++
      [noPropertiesAtCoastalErosionRisk.optional] ++ coastalPropertyCounts),
  saved "MAIN_RISK" [choice "mainRisk" "MAIN_RISK" riskTypes],
  saved "PROPERTY_AFFECTED_FLOODING" (noPropertiesAtFloodRisk :: floodPropertyCounts),
  saved "PROPERTY_AFFECTED_COASTAL_EROSION"
    (noPropertiesAtCoastalErosionRisk :: coastalPropertyCounts),
  saved "TWENTY_PERCENT_DEPRIVED"
    [percentage "percentProperties20PercentDeprived" "PERCENT_PROPERTIES_20_PERCENT_DEPRIVED"],
  saved "FORTY_PERCENT_DEPRIVED"
    [percentage "percentProperties40PercentDeprived" "PERCENT_PROPERTIES_40_PERCENT_DEPRIVED"],
  saved "CURRENT_FLOOD_FLUVIAL_RISK"
    [choice "currentFloodFluvialRisk" "CURRENT_FLOOD_FLUVIAL_RISK" floodRiskLevels],
  saved "CURRENT_FLOOD_SURFACE_WATER_RISK"
    [choice "currentFloodSurfaceWaterRisk" "CURRENT_FLOOD_SURFACE_WATER_RISK" floodRiskLevels],
  saved "CURRENT_COASTAL_EROSION_RISK"
    [choice "currentCoastalErosionRisk" "CURRENT_COASTAL_EROSION_RISK"
      coastalErosionRiskLevels],
  saved "APPROACH"
    [{ name := "approach", kind := .text, code := "APPROACH", maxLength := some longestText }],
  saved "URGENCY_REASON" [urgencyReason],
  saved "URGENCY_DETAILS" [urgencyReason, urgencyDetails],
  saved "CONFIDENCE_HOMES_BETTER_PROTECTED"
    [choice "confidenceHomesBetterProtected" "CONFIDENCE_HOMES_BETTER_PROTECTED"
      confidenceLevels],
  saved "CONFIDENCE_HOMES_BY_GATEWAY_FOUR"
    [choice "confidenceHomesByGatewayFour" "CONFIDENCE_HOMES_BY_GATEWAY_FOUR"
      confidenceLevels],
  saved "CONFIDENCE_SECURED_PARTNERSHIP_FUNDING"
    [choice "confidenceSecuredPartnershipFunding" "CONFIDENCE_SECURED_PARTNERSHIP_FUNDING"
      confidenceLevels],
  saved "ENVIRONMENTAL_BENEFITS" [flag "environmentalBenefits" "ENVIRONMENTAL_BENEFITS"]] ++
  habitats.flatMap Habitat.levels

/-- The levels in use. -/
def registry : Registry := ⟨levels⟩

end FloodScheme.Catalogue
