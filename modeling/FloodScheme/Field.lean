/-! The fields of a scheme: the name on the wire, the column that keeps the value, and how the
value changes between the two. -/
namespace FloodScheme

inductive FieldKind
  | copied
  | array
  | number
  | percentage
deriving DecidableEq, Repr

def FieldKind.name : FieldKind → String
  | copied => "passthrough"
  | array => "array"
  | number => "number"
  | percentage => "percentage"

structure Field where
  wire : String
  column : String
  kind : FieldKind := .copied
deriving DecidableEq, Repr

namespace Field

/-- Fields that a save may write. -/
def writable : List Field := [
  ⟨"name", "name", .copied⟩,
  ⟨"rmaName", "rma_name", .copied⟩,
  ⟨"projectType", "project_type", .copied⟩,
  ⟨"projectInterventionTypes", "project_intervention_types", .array⟩,
  ⟨"mainInterventionType", "main_intervention_type", .copied⟩,
  ⟨"financialStartYear", "earliest_start_year", .number⟩,
  ⟨"financialEndYear", "project_end_financial_year", .number⟩,
  ⟨"startOutlineBusinessCaseMonth", "start_outline_business_case_month", .number⟩,
  ⟨"startOutlineBusinessCaseYear", "start_outline_business_case_year", .number⟩,
  ⟨"completeOutlineBusinessCaseMonth", "complete_outline_business_case_month", .number⟩,
  ⟨"completeOutlineBusinessCaseYear", "complete_outline_business_case_year", .number⟩,
  ⟨"awardContractMonth", "award_contract_month", .number⟩,
  ⟨"awardContractYear", "award_contract_year", .number⟩,
  ⟨"startConstructionMonth", "start_construction_month", .number⟩,
  ⟨"startConstructionYear", "start_construction_year", .number⟩,
  ⟨"readyForServiceMonth", "ready_for_service_month", .number⟩,
  ⟨"readyForServiceYear", "ready_for_service_year", .number⟩,
  ⟨"couldStartEarly", "could_start_early", .copied⟩,
  ⟨"earliestWithGiaMonth", "earliest_with_gia_month", .number⟩,
  ⟨"earliestWithGiaYear", "earliest_with_gia_year", .number⟩,
  ⟨"risks", "project_risks_protected_against", .array⟩,
  ⟨"mainRisk", "main_source_of_risk", .copied⟩,
  ⟨"noPropertiesAtRisk", "no_properties_at_flood_risk", .copied⟩,
  ⟨"maintainingExistingAssets", "properties_benefit_maintaining_assets", .number⟩,
  ⟨"reducingFloodRisk50Plus", "properties_benefit_50_percent_reduction", .number⟩,
  ⟨"reducingFloodRiskLess50", "properties_benefit_less_50_percent_reduction", .number⟩,
  ⟨"increasingFloodResilience", "properties_benefit_individual_intervention", .number⟩,
  ⟨"noPropertiesAtCoastalErosionRisk", "no_properties_at_coastal_erosion_risk", .copied⟩,
  ⟨"propertiesBenefitMaintainingAssetsCoastal",
    "properties_benefit_maintaining_assets_coastal", .number⟩,
  ⟨"propertiesBenefitInvestmentCoastalErosion",
    "properties_benefit_investment_coastal_erosion", .number⟩,
  ⟨"percentProperties20PercentDeprived", "percent_properties_20_percent_deprived", .percentage⟩,
  ⟨"percentProperties40PercentDeprived", "percent_properties_40_percent_deprived", .percentage⟩,
  ⟨"currentFloodFluvialRisk", "current_flood_fluvial_risk", .copied⟩,
  ⟨"currentFloodSurfaceWaterRisk", "current_flood_surface_water_risk", .copied⟩,
  ⟨"currentCoastalErosionRisk", "current_coastal_erosion_risk", .copied⟩,
  ⟨"approach", "approach", .copied⟩,
  ⟨"urgencyReason", "urgency_reason", .copied⟩,
  ⟨"urgencyDetails", "urgency_details", .copied⟩,
  ⟨"confidenceHomesBetterProtected", "confidence_homes_better_protected", .copied⟩,
  ⟨"confidenceHomesByGatewayFour", "confidence_homes_by_gateway_four", .copied⟩,
  ⟨"confidenceSecuredPartnershipFunding", "confidence_secured_partnership_funding", .copied⟩,
  ⟨"environmentalBenefits", "environmental_benefits", .copied⟩,
  ⟨"intertidalHabitat", "intertidal_habitat", .copied⟩,
  ⟨"hectaresOfIntertidalHabitatCreatedOrEnhanced",
    "hectares_of_intertidal_habitat_created_or_enhanced", .number⟩,
  ⟨"woodland", "woodland", .copied⟩,
  ⟨"hectaresOfWoodlandHabitatCreatedOrEnhanced",
    "hectares_of_woodland_habitat_created_or_enhanced", .number⟩,
  ⟨"wetWoodland", "wet_woodland", .copied⟩,
  ⟨"hectaresOfWetWoodlandHabitatCreatedOrEnhanced",
    "hectares_of_wet_woodland_habitat_created_or_enhanced", .number⟩,
  ⟨"wetlandOrWetGrassland", "wetland_or_wet_grassland", .copied⟩,
  ⟨"hectaresOfWetlandOrWetGrasslandCreatedOrEnhanced",
    "hectares_of_wetland_or_wet_grassland_created_or_enhanced", .number⟩,
  ⟨"grassland", "grassland", .copied⟩,
  ⟨"hectaresOfGrasslandHabitatCreatedOrEnhanced",
    "hectares_of_grassland_habitat_created_or_enhanced", .number⟩,
  ⟨"heathland", "heathland", .copied⟩,
  ⟨"hectaresOfHeathlandCreatedOrEnhanced", "hectares_of_heathland_created_or_enhanced", .number⟩,
  ⟨"pondsLakes", "ponds_lakes", .copied⟩,
  ⟨"hectaresOfPondOrLakeHabitatCreatedOrEnhanced",
    "hectares_of_pond_or_lake_habitat_created_or_enhanced", .number⟩,
  ⟨"arableLand", "arable_land", .copied⟩,
  ⟨"hectaresOfArableLandLakeHabitatCreatedOrEnhanced",
    "hectares_of_arable_land_lake_habitat_created_or_enhanced", .number⟩,
  ⟨"comprehensiveRestoration", "comprehensive_restoration", .copied⟩,
  ⟨"kilometresOfWatercourseEnhancedOrCreatedComprehensive",
    "kilometres_of_watercourse_enhanced_or_created_comprehensive", .number⟩,
  ⟨"partialRestoration", "partial_restoration", .copied⟩,
  ⟨"kilometresOfWatercourseEnhancedOrCreatedPartial",
    "kilometres_of_watercourse_enhanced_or_created_partial", .number⟩,
  ⟨"createHabitatWatercourse", "create_habitat_watercourse", .copied⟩,
  ⟨"kilometresOfWatercourseEnhancedOrCreatedSingle",
    "kilometres_of_watercourse_enhanced_or_created_single", .number⟩]

/-- Fields that are shown with a stored scheme and never written. -/
def readOnly : List Field := [
  ⟨"id", "id", .number⟩,
  ⟨"referenceNumber", "reference_number", .copied⟩,
  ⟨"slug", "slug", .copied⟩,
  ⟨"urgencyDetailsUpdatedAt", "urgency_details_updated_at", .copied⟩,
  ⟨"createdAt", "created_at", .copied⟩,
  ⟨"updatedAt", "updated_at", .copied⟩]

def selected : List Field := writable ++ readOnly

def stateTable : String := "pafs_core_states"

def linkTable : String := "pafs_core_area_projects"

/-- Side tables with at most one row for a scheme, and the fields they add to it. -/
def joined : List (String × List Field) := [
  (stateTable, [⟨"projectState", "state", .copied⟩]),
  (linkTable, [⟨"areaId", "area_id", .number⟩, ⟨"isOwner", "owner", .copied⟩])]

end Field
end FloodScheme
