import CTrader.Lib.Dict

/-! The registry of message classes, by payload type and back. -/

namespace CTrader.Wire

/-- The classes of the messages that go into an envelope. -/
inductive ProtoClass
  | protoErrorRes
  | protoHeartbeatEvent
  | protoOAApplicationAuthReq
  | protoOAApplicationAuthRes
  | protoOAAccountAuthReq
  | protoOAAccountAuthRes
  | protoOAVersionReq
  | protoOAVersionRes
  | protoOANewOrderReq
  | protoOATrailingSLChangedEvent
  | protoOACancelOrderReq
  | protoOAAmendOrderReq
  | protoOAAmendPositionSLTPReq
  | protoOAClosePositionReq
  | protoOAAssetListReq
  | protoOAAssetListRes
  | protoOASymbolsListReq
  | protoOASymbolsListRes
  | protoOASymbolByIdReq
  | protoOASymbolByIdRes
  | protoOASymbolsForConversionReq
  | protoOASymbolsForConversionRes
  | protoOASymbolChangedEvent
  | protoOATraderReq
  | protoOATraderRes
  | protoOATraderUpdatedEvent
  | protoOAReconcileReq
  | protoOAReconcileRes
  | protoOAExecutionEvent
  | protoOASubscribeSpotsReq
  | protoOASubscribeSpotsRes
  | protoOAUnsubscribeSpotsReq
  | protoOAUnsubscribeSpotsRes
  | protoOASpotEvent
  | protoOAOrderErrorEvent
  | protoOADealListReq
  | protoOADealListRes
  | protoOASubscribeLiveTrendbarReq
  | protoOAUnsubscribeLiveTrendbarReq
  | protoOAGetTrendbarsReq
  | protoOAGetTrendbarsRes
  | protoOAExpectedMarginReq
  | protoOAExpectedMarginRes
  | protoOAMarginChangedEvent
  | protoOAErrorRes
  | protoOACashFlowHistoryListReq
  | protoOACashFlowHistoryListRes
  | protoOAGetTickDataReq
  | protoOAGetTickDataRes
  | protoOAAccountsTokenInvalidatedEvent
  | protoOAClientDisconnectEvent
  | protoOAGetAccountListByAccessTokenReq
  | protoOAGetAccountListByAccessTokenRes
  | protoOAGetCtidProfileByTokenReq
  | protoOAGetCtidProfileByTokenRes
  | protoOAAssetClassListReq
  | protoOAAssetClassListRes
  | protoOADepthEvent
  | protoOASubscribeDepthQuotesReq
  | protoOASubscribeDepthQuotesRes
  | protoOAUnsubscribeDepthQuotesReq
  | protoOAUnsubscribeDepthQuotesRes
  | protoOASymbolCategoryListReq
  | protoOASymbolCategoryListRes
  | protoOAAccountLogoutReq
  | protoOAAccountLogoutRes
  | protoOAAccountDisconnectEvent
  | protoOASubscribeLiveTrendbarRes
  | protoOAUnsubscribeLiveTrendbarRes
  | protoOAMarginCallListReq
  | protoOAMarginCallListRes
  | protoOAMarginCallUpdateReq
  | protoOAMarginCallUpdateRes
  | protoOAMarginCallUpdateEvent
  | protoOAMarginCallTriggerEvent
  | protoOARefreshTokenReq
  | protoOARefreshTokenRes
  | protoOAOrderListReq
  | protoOAOrderListRes
  | protoOAGetDynamicLeverageByIDReq
  | protoOAGetDynamicLeverageByIDRes
  | protoOADealListByPositionIdReq
  | protoOADealListByPositionIdRes
  | protoOAOrderDetailsReq
  | protoOAOrderDetailsRes
  | protoOAOrderListByPositionIdReq
  | protoOAOrderListByPositionIdRes
  | protoOADealOffsetListReq
  | protoOADealOffsetListRes
  | protoOAGetPositionUnrealizedPnLReq
  | protoOAGetPositionUnrealizedPnLRes
  -- A class that has no payload type of its own.
  | unregistered (name : String)
deriving DecidableEq, Repr

/-- The message class of each payload type. -/
def payloadTypeToClass : Dict Nat ProtoClass where
  entries := [
    -- Common messages.
    (50, .protoErrorRes),
    (51, .protoHeartbeatEvent),
    -- OpenAPI messages.
    (2100, .protoOAApplicationAuthReq),
    (2101, .protoOAApplicationAuthRes),
    (2102, .protoOAAccountAuthReq),
    (2103, .protoOAAccountAuthRes),
    (2104, .protoOAVersionReq),
    (2105, .protoOAVersionRes),
    (2106, .protoOANewOrderReq),
    (2107, .protoOATrailingSLChangedEvent),
    (2108, .protoOACancelOrderReq),
    (2109, .protoOAAmendOrderReq),
    (2110, .protoOAAmendPositionSLTPReq),
    (2111, .protoOAClosePositionReq),
    (2112, .protoOAAssetListReq),
    (2113, .protoOAAssetListRes),
    (2114, .protoOASymbolsListReq),
    (2115, .protoOASymbolsListRes),
    (2116, .protoOASymbolByIdReq),
    (2117, .protoOASymbolByIdRes),
    (2118, .protoOASymbolsForConversionReq),
    (2119, .protoOASymbolsForConversionRes),
    (2120, .protoOASymbolChangedEvent),
    (2121, .protoOATraderReq),
    (2122, .protoOATraderRes),
    (2123, .protoOATraderUpdatedEvent),
    (2124, .protoOAReconcileReq),
    (2125, .protoOAReconcileRes),
    (2126, .protoOAExecutionEvent),
    (2127, .protoOASubscribeSpotsReq),
    (2128, .protoOASubscribeSpotsRes),
    (2129, .protoOAUnsubscribeSpotsReq),
    (2130, .protoOAUnsubscribeSpotsRes),
    (2131, .protoOASpotEvent),
    (2132, .protoOAOrderErrorEvent),
    (2133, .protoOADealListReq),
    (2134, .protoOADealListRes),
    (2135, .protoOASubscribeLiveTrendbarReq),
    (2136, .protoOAUnsubscribeLiveTrendbarReq),
    (2137, .protoOAGetTrendbarsReq),
    (2138, .protoOAGetTrendbarsRes),
    (2139, .protoOAExpectedMarginReq),
    (2140, .protoOAExpectedMarginRes),
    (2141, .protoOAMarginChangedEvent),
    (2142, .protoOAErrorRes),
    (2143, .protoOACashFlowHistoryListReq),
    (2144, .protoOACashFlowHistoryListRes),
    (2145, .protoOAGetTickDataReq),
    (2146, .protoOAGetTickDataRes),
    (2147, .protoOAAccountsTokenInvalidatedEvent),
    (2148, .protoOAClientDisconnectEvent),
    (2149, .protoOAGetAccountListByAccessTokenReq),
    (2150, .protoOAGetAccountListByAccessTokenRes),
    (2151, .protoOAGetCtidProfileByTokenReq),
    (2152, .protoOAGetCtidProfileByTokenRes),
    (2153, .protoOAAssetClassListReq),
    (2154, .protoOAAssetClassListRes),
    (2155, .protoOADepthEvent),
    (2156, .protoOASubscribeDepthQuotesReq),
    (2157, .protoOASubscribeDepthQuotesRes),
    (2158, .protoOAUnsubscribeDepthQuotesReq),
    (2159, .protoOAUnsubscribeDepthQuotesRes),
    (2160, .protoOASymbolCategoryListReq),
    (2161, .protoOASymbolCategoryListRes),
    (2162, .protoOAAccountLogoutReq),
    (2163, .protoOAAccountLogoutRes),
    (2164, .protoOAAccountDisconnectEvent),
    (2165, .protoOASubscribeLiveTrendbarRes),
    (2166, .protoOAUnsubscribeLiveTrendbarRes),
    (2167, .protoOAMarginCallListReq),
    (2168, .protoOAMarginCallListRes),
    (2169, .protoOAMarginCallUpdateReq),
    (2170, .protoOAMarginCallUpdateRes),
    (2171, .protoOAMarginCallUpdateEvent),
    (2172, .protoOAMarginCallTriggerEvent),
    (2173, .protoOARefreshTokenReq),
    (2174, .protoOARefreshTokenRes),
    (2175, .protoOAOrderListReq),
    (2176, .protoOAOrderListRes),
    (2177, .protoOAGetDynamicLeverageByIDReq),
    (2178, .protoOAGetDynamicLeverageByIDRes),
    (2179, .protoOADealListByPositionIdReq),
    (2180, .protoOADealListByPositionIdRes),
    (2181, .protoOAOrderDetailsReq),
    (2182, .protoOAOrderDetailsRes),
    (2183, .protoOAOrderListByPositionIdReq),
    (2184, .protoOAOrderListByPositionIdRes),
    (2185, .protoOADealOffsetListReq),
    (2186, .protoOADealOffsetListRes),
    (2187, .protoOAGetPositionUnrealizedPnLReq),
    (2188, .protoOAGetPositionUnrealizedPnLRes)]
  nodup := by decide +kernel

/-- The payload type of each message class, for the messages that go out. -/
def classToPayloadType : Dict ProtoClass Nat := payloadTypeToClass.invert

/-- The message class of a payload type, if that type is registered. -/
def getClass (payloadType : Nat) : Option ProtoClass := payloadTypeToClass.get? payloadType

/-- The payload type of a message class, if that class is registered. -/
def getPayloadType (cls : ProtoClass) : Option Nat := classToPayloadType.get? cls

/-- Every registered class maps from exactly one payload type. -/
theorem payloadTypeToClass_distinct : payloadTypeToClass.values.Nodup := by decide +kernel

/-- A class has the payload types that lead to it, so the inversion loses none. -/
theorem getPayloadType_eq_some {cls : ProtoClass} {payloadType : Nat} :
    getPayloadType cls = some payloadType ↔ getClass payloadType = some cls :=
  Dict.get?_invert payloadTypeToClass_distinct payloadType cls

end CTrader.Wire
