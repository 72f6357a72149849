import MapContext.Json.Value

/-!
# A sample map

The layer tree of a state-wide map with themed groups, as entries and as a context document, and
sample answers of services.

* `/0` Karte RP, with the groups Landesfläche, Wald, Sonderkultur and Thema 3 to 18
* `/1` Hintergrundkarten
-/

namespace MapContext.Sample

/-- The service of the layers of Landesfläche. -/
def landService : String := "https://geodienste.example.org/wms/landesflaeche"

/-- The service of the layers of Wald. -/
def waldService : String := "https://geodienste.example.org/wms/wald"

/-- The service of the background maps. -/
def basemapService : String := "https://basemap.example.org/wms"

/-- One resource of the sample. -/
structure Entry where
  /-- The identifier. -/
  id : String
  /-- The folder. -/
  folder : String
  /-- The title. -/
  title : String
  /-- Service and layer, if the resource can be drawn. -/
  wms : Option (String × String) := none
  /-- Reference systems. -/
  crs : List String := []
  deriving DecidableEq

/-- A drawable entry whose layer is named like itself. -/
def Entry.layer (service : String) (crs : List String) (id folder title : String) : Entry :=
  ⟨id, folder, title, some (service, id), crs⟩

/-- An entry of Landesfläche. -/
def landLayer : String → String → String → Entry :=
  .layer landService ["EPSG:25832", "EPSG:4326", "EPSG:3857"]

/-- An entry of Wald. -/
def waldLayer : String → String → String → Entry :=
  .layer waldService ["EPSG:25832", "EPSG:4326"]

/-- A background map. -/
def basemapLayer : String → String → String → Entry :=
  .layer basemapService ["EPSG:3857", "EPSG:25832"]

/-- The group of a theme. -/
def themeGroup (n : Nat) : Entry :=
  { id := "thema-" ++ toString n
    folder := "/0/" ++ toString n
    title := "Thema " ++ toString n }

/-- The sample in document order. -/
def entries : List Entry :=
  [{ id := "karte-rp", folder := "/0", title := "Karte RP" },
   { id := "landesflaeche", folder := "/0/0", title := "Landesfläche" },
   landLayer "land-0" "/0/0/0" "Land 0",
   landLayer "land-1" "/0/0/1" "Land 1",
   landLayer "land-2" "/0/0/2" "Land 2",
   landLayer "land-3" "/0/0/3" "Land 3",
   { id := "wald", folder := "/0/1", title := "Wald" },
   waldLayer "wald-0" "/0/1/0" "Wald 0",
   waldLayer "wald-1" "/0/1/1" "Wald 1",
   waldLayer "wald-2" "/0/1/2" "Wald 2",
   waldLayer "wald-3" "/0/1/3" "Wald 3",
   waldLayer "wald-4" "/0/1/4" "Wald 4",
   { id := "sonderkultur", folder := "/0/2", title := "Sonderkultur" },
   { id := "weinbau", folder := "/0/2/0", title := "Weinbau" },
   { id := "obstbau", folder := "/0/2/1", title := "Obstbau" }]
  ++ (List.range 16).map (fun n => themeGroup (n + 3))
  ++ [{ id := "hintergrund", folder := "/1", title := "Hintergrundkarten" },
   basemapLayer "luftbild" "/1/0" "Luftbild",
   basemapLayer "topographie" "/1/1" "Topographie"]

/-- The address of a map request for a layer. -/
def mapHref (service layer : String) : String :=
  service ++ "?SERVICE=WMS&VERSION=1.3.0&REQUEST=GetMap&LAYERS=" ++ layer
    ++ "&STYLES=&FORMAT=image%2Fpng"

/-- The offering of a layer in JSON, with sorted keys. -/
def offeringJson (service layer : String) : Json.Value :=
  .object
    [("code", .text "http://www.opengis.net/spec/owc-geojson/1.0/req/wms"),
     ("operations", .array
       [.object
         [("code", .text "GetCapabilities"),
          ("href", .text (service ++ "?SERVICE=WMS&REQUEST=GetCapabilities")),
          ("method", .text "GET"), ("type", .text "text/xml")],
        .object
         [("code", .text "GetMap"), ("href", .text (mapHref service layer)),
          ("method", .text "GET"), ("type", .text "image/png")]])]

/-- The entry as a GeoJSON feature, with sorted keys. -/
def Entry.toJson (e : Entry) : Json.Value :=
  let properties : Json.Members :=
    [("active", .boolean false)]
    ++ (if e.crs.isEmpty then [] else [("crs", .texts e.crs)])
    ++ [("folder", .text e.folder)]
    ++ (e.wms.map fun (service, layer) =>
        ("offerings", Json.Value.array [offeringJson service layer])).toList
    ++ [("title", .text e.title)]
  .object
    [("geometry", .null), ("id", .text e.id), ("properties", .object properties),
     ("type", .text "Feature")]

/-- The sample as a context document, with sorted keys. -/
def document : Json.Value :=
  .object
    [("features", .array (entries.map Entry.toJson)),
     ("id", .text "urn:uuid:0f1e2d3c-4b5a-6978-8796-a5b4c3d2e1f0"),
     ("properties", .object
       [("lang", .text "de"), ("title", .text "Karte RP"),
        ("updated", .text "2024-03-01T12:00:00Z")]),
     ("type", .text "FeatureCollection")]

/-- A description of a service of version 1.3.0 with nested layers. -/
def nestedCapabilities : String :=
  r#"<?xml version="1.0" encoding="UTF-8"?>
<WMS_Capabilities version="1.3.0" xmlns="http://www.opengis.net/wms" xmlns:xlink="http://www.w3.org/1999/xlink">
  <Service>
    <Name>WMS</Name>
    <Title>Naturschutz RP</Title>
    <Abstract>Schutzgebiete und Biotope</Abstract>
  </Service>
  <Capability>
    <Request>
      <GetCapabilities>
        <Format>text/xml</Format>
        <DCPType><HTTP><Get><OnlineResource xlink:type="simple" xlink:href="https://natur.example.org/wms?"/></Get></HTTP></DCPType>
      </GetCapabilities>
      <GetMap>
        <Format>image/png</Format>
        <Format>image/jpeg</Format>
        <DCPType><HTTP><Get><OnlineResource xlink:type="simple" xlink:href="https://natur.example.org/wms?"/></Get></HTTP></DCPType>
      </GetMap>
    </Request>
    <Layer>
      <Title>Naturschutz</Title>
      <CRS>EPSG:4326</CRS>
      <CRS>EPSG:25832</CRS>
      <EX_GeographicBoundingBox>
        <westBoundLongitude>6.1</westBoundLongitude>
        <eastBoundLongitude>8.5</eastBoundLongitude>
        <southBoundLatitude>48.9</southBoundLatitude>
        <northBoundLatitude>50.9</northBoundLatitude>
      </EX_GeographicBoundingBox>
      <Layer queryable="1">
        <Name>schutzgebiete</Name>
        <Title>Schutzgebiete</Title>
        <CRS>EPSG:3857</CRS>
        <Layer queryable="1">
          <Name>nsg</Name>
          <Title>Naturschutzgebiete</Title>
          <Style><Name>default</Name><Title>Standard</Title></Style>
        </Layer>
        <Layer queryable="1">
          <Name>lsg</Name>
          <Title>Landschaftsschutzgebiete</Title>
          <MaxScaleDenominator>250000</MaxScaleDenominator>
        </Layer>
      </Layer>
      <Layer>
        <Name>biotope</Name>
        <Title>Biotope</Title>
      </Layer>
    </Layer>
  </Capability>
</WMS_Capabilities>"#

/-- A description of a service of version 1.1.1 with a flat list of layers. -/
def flatCapabilities : String :=
  r#"<?xml version="1.0" encoding="UTF-8"?>
<WMT_MS_Capabilities version="1.1.1">
  <Service>
    <Name>OGC:WMS</Name>
    <Title>Gewässer</Title>
  </Service>
  <Capability>
    <Request>
      <GetMap>
        <Format>image/gif</Format>
        <DCPType><HTTP><Get><OnlineResource xmlns:xlink="http://www.w3.org/1999/xlink" xlink:href="https://wasser.example.org/cgi-bin/wms?map=gewaesser&amp;"/></Get></HTTP></DCPType>
      </GetMap>
    </Request>
    <Layer>
      <Title>Gewässer</Title>
      <SRS>EPSG:4326 EPSG:31466</SRS>
      <LatLonBoundingBox minx="6.0" miny="49.0" maxx="8.6" maxy="51.0"/>
      <Layer>
        <Name>fluesse</Name>
        <Title>Flüsse</Title>
      </Layer>
      <Layer>
        <Name>seen</Name>
        <Title>Seen</Title>
      </Layer>
    </Layer>
  </Capability>
</WMT_MS_Capabilities>"#

/-- The error report of a service. -/
def exceptionReport : String :=
  r#"<?xml version="1.0" encoding="UTF-8"?>
<ServiceExceptionReport version="1.3.0" xmlns="http://www.opengis.net/ogc">
  <ServiceException code="InvalidParameterValue">Unknown map file</ServiceException>
</ServiceExceptionReport>"#

end MapContext.Sample
